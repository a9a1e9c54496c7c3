/-!
# `Logic.Prog` — programs of atomic statements

A service call of a networked program is a sequence of **atomic statements** (one SQL statement, one
reading of the clock, one fetch, …) with pure code between them. `Prog` is the tree of such a call: a
node names the next statement, its children are the continuations for each answer. The same tree is
read in two ways:

* **sequentially** — `Prog.run exec p s` executes the statements one after another and keeps the state
  reached *also when the call fails*, as a store without a surrounding transaction does;
* **concurrently** — `Logic.Interleave` lets the trees of many calls take turns, one statement each.

Nothing here knows what the statements are: `S` is their type, `Ans s` the type of the answer to `s`,
and `exec` what a statement does to a state.
-/

namespace Logic

/-- A program over the statements `S`: finished with a result or an error, or about to execute the
    statement `s` and to go on with `k` on its answer. -/
inductive Prog (S : Type) (Ans : S → Type) (ε α : Type) : Type where
  | done (r : Except ε α)
  | stmt (s : S) (k : Ans s → Prog S Ans ε α)

/-- A sequence of fallible steps succeeds only if each of them does. -/
theorem exists_of_bind_ok {ε α β : Type} {x : Except ε α} {f : α → Except ε β} {b : β}
    (h : x >>= f = .ok b) : ∃ a, x = .ok a ∧ f a = .ok b := by
  cases x with
  | error e => cases h
  | ok a => exact ⟨a, rfl, h⟩

namespace Prog

variable {S : Type} {Ans : S → Type} {ε α β γ σ : Type}

/-- Sequencing: an error ends the whole program (the `?` of the source). -/
def bind : Prog S Ans ε α → (α → Prog S Ans ε β) → Prog S Ans ε β
  | .done (.ok a), f => f a
  | .done (.error e), _ => .done (.error e)
  | .stmt s k, f => .stmt s (fun a => (k a).bind f)

instance : Monad (Prog S Ans ε) where
  pure a := .done (.ok a)
  bind := bind

/-- Turn a failure into a value: what `match call.await`, `.ok()` and `unwrap_or` look at. -/
def attempt : Prog S Ans ε α → Prog S Ans ε (Except ε α)
  | .done r => .done (.ok r)
  | .stmt s k => .stmt s (fun a => (k a).attempt)

/-- Fail with `e`. -/
def fail (e : ε) : Prog S Ans ε α := .done (.error e)

/-- A pure result that may be an error. -/
def ofExcept (r : Except ε α) : Prog S Ans ε α := .done r

/-- One statement, returning its answer. -/
def call (s : S) : Prog S Ans ε (Ans s) := .stmt s (fun a => .done (.ok a))

@[simp] theorem done_ok_bind (a : α) (f : α → Prog S Ans ε β) :
    (Prog.done (.ok a) : Prog S Ans ε α) >>= f = f a := rfl

@[simp] theorem stmt_bind (s : S) (k : Ans s → Prog S Ans ε α) (f : α → Prog S Ans ε β) :
    Prog.stmt s k >>= f = .stmt s (fun a => k a >>= f) := rfl

@[simp] theorem call_bind (s : S) (f : Ans s → Prog S Ans ε β) :
    (call s : Prog S Ans ε (Ans s)) >>= f = .stmt s f := rfl

@[simp] theorem pure_eq (a : α) : (pure a : Prog S Ans ε α) = .done (.ok a) := rfl

theorem bind_pure (p : Prog S Ans ε α) : p >>= pure = p := by
  induction p with
  | done r => cases r <;> rfl
  | stmt s k ih =>
      rw [stmt_bind]
      exact congrArg _ (funext ih)

theorem bind_assoc (p : Prog S Ans ε α) (f : α → Prog S Ans ε β) (g : β → Prog S Ans ε γ) :
    p >>= f >>= g = p >>= fun a => f a >>= g := by
  induction p with
  | done r => cases r <;> rfl
  | stmt s k ih =>
      simp only [stmt_bind]
      exact congrArg _ (funext ih)

instance : LawfulMonad (Prog S Ans ε) :=
  LawfulMonad.mk' _ bind_pure (fun _ _ => rfl) bind_assoc

/-- The program has finished. -/
def isDone : Prog S Ans ε α → Bool
  | .done _ => true
  | .stmt _ _ => false

/-- The statement that the program is about to execute. -/
def next? : Prog S Ans ε α → Option S
  | .done _ => none
  | .stmt s _ => some s

theorem eq_done_of_isDone {p : Prog S Ans ε α} (h : p.isDone = true) : ∃ r, p = .done r := by
  cases p with
  | done r => exact ⟨r, rfl⟩
  | stmt s k => cases h

/-! ## Sequential execution -/

variable (exec : (s : S) → σ → Ans s × σ)

/-- Execute a program to its end. The state is returned beside the result, whether that is a value or
    an error. -/
def run : Prog S Ans ε α → σ → Except ε α × σ
  | .done r, w => (r, w)
  | .stmt s k, w => (k (exec s w).1).run (exec s w).2

@[simp] theorem run_done (r : Except ε α) (w : σ) :
    run exec (.done r : Prog S Ans ε α) w = (r, w) := rfl

@[simp] theorem run_stmt (s : S) (k : Ans s → Prog S Ans ε α) (w : σ) :
    run exec (.stmt s k) w = run exec (k (exec s w).1) (exec s w).2 := rfl

@[simp] theorem run_fail (e : ε) (w : σ) :
    run exec (fail e : Prog S Ans ε α) w = (.error e, w) := rfl

@[simp] theorem run_ofExcept (r : Except ε α) (w : σ) :
    run exec (ofExcept r : Prog S Ans ε α) w = (r, w) := rfl

theorem run_bind (p : Prog S Ans ε α) (f : α → Prog S Ans ε β) (w : σ) :
    run exec (p >>= f) w =
      match run exec p w with
      | (.ok a, w') => run exec (f a) w'
      | (.error e, w') => (.error e, w') := by
  induction p generalizing w with
  | done r => cases r <;> rfl
  | stmt s k ih => exact ih (exec s w).1 (exec s w).2

/-- A program whose first part succeeds goes on in the state that part left. -/
theorem run_bind_ok {p : Prog S Ans ε α} {f : α → Prog S Ans ε β} {w w' : σ} {a : α}
    (h : run exec p w = (.ok a, w')) : run exec (p >>= f) w = run exec (f a) w' := by
  rw [run_bind, h]

/-- A program whose first part fails stops there, in the state that part left. -/
theorem run_bind_error {p : Prog S Ans ε α} {f : α → Prog S Ans ε β} {w w' : σ} {e : ε}
    (h : run exec p w = (.error e, w')) : run exec (p >>= f) w = (.error e, w') := by
  rw [run_bind, h]

/-- Where a program succeeds, its first part has succeeded, and the rest has succeeded from there. -/
theorem exists_of_run_bind_ok {p : Prog S Ans ε α} {f : α → Prog S Ans ε β} {w w' : σ} {b : β}
    (h : run exec (p >>= f) w = (.ok b, w')) :
    ∃ a w₁, run exec p w = (.ok a, w₁) ∧ run exec (f a) w₁ = (.ok b, w') := by
  rcases hr : run exec p w with ⟨r, w₁⟩
  cases r with
  | ok a =>
      rw [run_bind_ok exec hr] at h
      exact ⟨a, w₁, rfl, h⟩
  | error e =>
      rw [run_bind_error exec hr] at h
      cases h

@[simp] theorem run_attempt (p : Prog S Ans ε α) (w : σ) :
    run exec p.attempt w = (.ok (run exec p w).1, (run exec p w).2) := by
  induction p generalizing w with
  | done r => rfl
  | stmt s k ih => exact ih (exec s w).1 (exec s w).2

/-! ## Loops

Each step of a loop is on its own: where one fails, the steps before it have taken effect. -/

/-- **Loop rule.** A loop whose steps are refused exactly where `good` says so, and then without effect,
    executes the steps before the first refused one. -/
theorem run_forM_prefix {f : β → Prog S Ans ε PUnit} {good : β → Bool} {e : ε} {Inv : List β → σ → Prop}
    (hok : ∀ done b w, good b = true → Inv done w →
      ∃ w', run exec (f b) w = (.ok (), w') ∧ Inv (done ++ [b]) w')
    (herror : ∀ done b w, good b = false → Inv done w → run exec (f b) w = (.error e, w))
    (bs : List β) {done : List β} {w : σ} (hw : Inv done w) :
    ∃ w', run exec (bs.forM f) w = (if bs.all good then .ok () else .error e, w') ∧
      Inv (done ++ bs.takeWhile good) w' := by
  induction bs generalizing done w with
  | nil => exact ⟨w, rfl, by simpa using hw⟩
  | cons b bs ih =>
      rw [show (b :: bs).forM f = f b >>= fun _ => bs.forM f from rfl]
      cases hgood : good b with
      | true =>
          obtain ⟨w₁, hrun, hinv⟩ := hok done b w hgood hw
          obtain ⟨w', hrest, hinv'⟩ := ih hinv
          refine ⟨w', ?_, ?_⟩
          · rw [run_bind_ok exec hrun, hrest]
            simp [hgood]
          · rw [List.takeWhile_cons_of_pos hgood]
            simpa using hinv'
      | false =>
          refine ⟨w, ?_, ?_⟩
          · rw [run_bind_error exec (herror done b w hgood hw)]
            simp [hgood]
          · rw [List.takeWhile_cons_of_neg (by simp [hgood])]
            simpa using hw

/-! ## What a program may execute

`All P p`: every statement that `p` can come to execute, whatever the answers, satisfies `P`. -/

/-- Every statement the program can reach satisfies `P`. -/
def All (P : S → Prop) : Prog S Ans ε α → Prop
  | .done _ => True
  | .stmt s k => P s ∧ ∀ a, (k a).All P

theorem All.bind {P : S → Prop} {p : Prog S Ans ε α} {f : α → Prog S Ans ε β}
    (hp : p.All P) (hf : ∀ a, (f a).All P) : (p >>= f).All P := by
  induction p with
  | done r =>
      cases r with
      | ok a => exact hf a
      | error e => trivial
  | stmt s k ih => exact ⟨hp.1, fun a => ih a (hp.2 a)⟩

theorem All.call {P : S → Prop} {s : S} (h : P s) : (call s : Prog S Ans ε (Ans s)).All P :=
  ⟨h, fun _ => trivial⟩

theorem All.mono {P Q : S → Prop} (hPQ : ∀ s, P s → Q s) {p : Prog S Ans ε α} (h : p.All P) : p.All Q := by
  induction p with
  | done r => trivial
  | stmt s k ih => exact ⟨hPQ s h.1, fun a => ih a (h.2 a)⟩

theorem All.of_forall {P : S → Prop} (h : ∀ s, P s) (p : Prog S Ans ε α) : p.All P := by
  induction p with
  | done r => trivial
  | stmt s k ih => exact ⟨h s, ih⟩

theorem All.attempt {P : S → Prop} {p : Prog S Ans ε α} (h : p.All P) : p.attempt.All P := by
  induction p with
  | done r => trivial
  | stmt s k ih => exact ⟨h.1, fun a => ih a (h.2 a)⟩

/-- What follows a pure result needs to be known only where there is one. -/
theorem All.ofExcept_bind {P : S → Prop} {r : Except ε α} {f : α → Prog S Ans ε β}
    (h : ∀ a, r = .ok a → (f a).All P) : (ofExcept r >>= f).All P := by
  cases r with
  | ok a => exact h a rfl
  | error e => trivial

theorem All.mapM {P : S → Prop} {f : α → Prog S Ans ε β} (h : ∀ a, (f a).All P) (as : List α) :
    (as.mapM f).All P := by
  induction as with
  | nil => trivial
  | cons a as ih =>
      rw [List.mapM_cons]
      exact (h a).bind fun b => ih.bind fun bs => trivial

theorem All.forM {P : S → Prop} {f : α → Prog S Ans ε PUnit} (h : ∀ a, (f a).All P) (as : List α) :
    (as.forM f).All P := by
  induction as with
  | nil => trivial
  | cons a as ih => exact (h a).bind fun _ => ih

/-- **Frame rule.** What every statement of a program preserves, its run preserves. -/
theorem All.run_preserves {P : S → Prop} {Inv : σ → Prop}
    (hstep : ∀ s w, P s → Inv w → Inv (exec s w).2) {p : Prog S Ans ε α} (h : p.All P) {w : σ}
    (hw : Inv w) : Inv (run exec p w).2 := by
  induction p generalizing w with
  | done r => exact hw
  | stmt s k ih => exact ih _ (h.2 _) (hstep s w h.1 hw)

/-! ## Programs that write once

`Once Before After write refused p`: if `p` succeeds, it has executed `write` exactly once, statements
satisfying `Before` ahead of it and statements satisfying `After` behind it. A refused write ends `p` with an
error. -/

inductive Once (Before After : S → Prop) (write : S) (refused : Ans write → Prop) :
    Prog S Ans ε α → Prop where
  | failed (e : ε) : Once Before After write refused (.done (.error e))
  | write (k : Ans write → Prog S Ans ε α) (hrefused : ∀ a, refused a → ∃ e, k a = .done (.error e))
      (hafter : ∀ a, ¬ refused a → (k a).All After) : Once Before After write refused (.stmt write k)
  | before (s : S) (k : Ans s → Prog S Ans ε α) (hs : Before s)
      (hk : ∀ a, Once Before After write refused (k a)) : Once Before After write refused (.stmt s k)

variable {Before After : S → Prop} {write : S} {refused : Ans write → Prop}

/-- What follows the program that writes comes after the write. -/
theorem Once.bind_after {p : Prog S Ans ε α} {f : α → Prog S Ans ε β}
    (hp : Once Before After write refused p) (hf : ∀ a, (f a).All After) :
    Once Before After write refused (p >>= f) := by
  induction hp with
  | failed e => exact .failed e
  | write k hrefused hafter =>
      refine .write _ ?_ fun a ha => (hafter a ha).bind hf
      intro a ha
      obtain ⟨e, he⟩ := hrefused a ha
      refine ⟨e, ?_⟩
      show k a >>= f = _
      rw [he]
      rfl
  | before s k hs hk ih => exact .before s _ hs ih

/-- What precedes the program that writes comes before the write. -/
theorem All.bind_once {p : Prog S Ans ε α} {f : α → Prog S Ans ε β} (hp : p.All Before)
    (hf : ∀ a, Once Before After write refused (f a)) : Once Before After write refused (p >>= f) := by
  induction p with
  | done r =>
      cases r with
      | ok a => exact hf a
      | error e => exact .failed e
  | stmt s k ih => exact .before s _ hp.1 fun a => ih a (hp.2 a)

/-- A program that writes once has not succeeded before its write. -/
theorem Once.not_ok {r : Except ε α} (h : Once Before After write refused (.done r)) : ∃ e, r = .error e := by
  cases h with
  | failed e => exact ⟨e, rfl⟩

end Prog

end Logic
