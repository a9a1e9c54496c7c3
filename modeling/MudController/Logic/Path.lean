import MudController.Logic.Interleave
import Mathlib.Data.List.Forall2

/-!
# `Logic.Path` — what a call has seen

A call of a pool executes its statements at turns of its own, and between them the state belongs to the others.
What it does is determined by the answers that it has got: `Path p seen q` says that the program `p`, answered as
in `seen`, has become `q`. Of a pool, `exists_path` says that every call is at the end of such a path, and that
each answer on it was given by the state at one turn of the schedule, the turns following one another as the
answers do. So what a call returns can be read off the states of the run, whatever the other calls were.
-/

namespace Logic

/-- A statement with the answer to it. -/
structure Answered (S : Type) (Ans : S → Type) where
  stmt : S
  answer : Ans stmt

namespace Prog

variable {S : Type} {Ans : S → Type} {ε α β : Type}

/-- Answered as in `seen`, the first program becomes the second. -/
inductive Path : Prog S Ans ε α → List (Answered S Ans) → Prog S Ans ε α → Prop where
  | refl (p : Prog S Ans ε α) : Path p [] p
  | cons {s : S} {k : Ans s → Prog S Ans ε α} {a : Ans s} {seen : List (Answered S Ans)} {q : Prog S Ans ε α}
      (h : Path (k a) seen q) : Path (.stmt s k) (⟨s, a⟩ :: seen) q

/-- One more answer. -/
theorem Path.snoc {p : Prog S Ans ε α} {seen : List (Answered S Ans)} {s : S} {k : Ans s → Prog S Ans ε α}
    (h : Path p seen (.stmt s k)) (a : Ans s) : Path p (seen ++ [⟨s, a⟩]) (k a) := by
  generalize hq : Prog.stmt s k = q at h
  induction h with
  | refl p =>
      subst hq
      exact .cons (.refl _)
  | cons _ ih => exact .cons (ih hq)

/-- A finished program goes nowhere. -/
theorem Path.of_done {r : Except ε α} {seen : List (Answered S Ans)} {q : Prog S Ans ε α}
    (h : Path (.done r) seen q) : seen = [] ∧ q = .done r := by
  cases h with
  | refl => exact ⟨rfl, rfl⟩

/-- A program that has finished has had the answer to its first statement. -/
theorem Path.of_stmt {s : S} {k : Ans s → Prog S Ans ε α} {r : Except ε α} {seen : List (Answered S Ans)}
    (h : Path (.stmt s k) seen (.done r)) :
    ∃ a rest, seen = ⟨s, a⟩ :: rest ∧ Path (k a) rest (.done r) := by
  cases h with
  | cons h => exact ⟨_, _, rfl, h⟩

/-- A sequence of programs is within the first of them, or has finished it and is within the second. -/
theorem Path.of_bind {p : Prog S Ans ε α} {f : α → Prog S Ans ε β} {seen : List (Answered S Ans)}
    {q : Prog S Ans ε β} (h : Path (p >>= f) seen q) :
    (∃ p', Path p seen p' ∧ q = p' >>= f) ∨
      ∃ a before after, seen = before ++ after ∧ Path p before (.done (.ok a)) ∧ Path (f a) after q := by
  induction p generalizing seen with
  | done r =>
      cases r with
      | ok a => exact .inr ⟨a, [], seen, rfl, .refl _, h⟩
      | error e =>
          obtain ⟨rfl, rfl⟩ := Path.of_done h
          exact .inl ⟨_, .refl _, rfl⟩
  | stmt s k ih =>
      cases h with
      | refl => exact .inl ⟨_, .refl _, rfl⟩
      | @cons _ _ a seen _ h =>
          rcases ih a h with ⟨p', hpath, rfl⟩ | ⟨b, before, after, rfl, hbefore, hafter⟩
          · exact .inl ⟨p', .cons hpath, rfl⟩
          · exact .inr ⟨b, ⟨s, a⟩ :: before, after, rfl, .cons hbefore, hafter⟩

/-- A sequence of programs that has succeeded has done both. -/
theorem Path.of_bind_ok {p : Prog S Ans ε α} {f : α → Prog S Ans ε β} {seen : List (Answered S Ans)} {b : β}
    (h : Path (p >>= f) seen (.done (.ok b))) :
    ∃ a before after, seen = before ++ after ∧ Path p before (.done (.ok a)) ∧
      Path (f a) after (.done (.ok b)) := by
  rcases h.of_bind with ⟨p', hpath, hdone⟩ | hboth
  · -- the first program has finished, and the second makes no statement
    cases p' with
    | stmt s k => cases hdone
    | done r =>
        cases r with
        | error e => cases hdone
        | ok a => exact ⟨a, seen, [], (List.append_nil seen).symm, hpath, hdone ▸ .refl _⟩
  · exact hboth

/-- A program whose failure is looked at has finished as the program itself. -/
theorem Path.of_attempt {p : Prog S Ans ε α} {seen : List (Answered S Ans)} {r : Except ε α}
    (h : Path p.attempt seen (.done (.ok r))) : Path p seen (.done r) := by
  induction p generalizing seen with
  | done r' =>
      obtain ⟨rfl, hr⟩ := Path.of_done h
      obtain rfl := Except.ok.inj (Prog.done.inj hr)
      exact .refl _
  | stmt s k ih =>
      obtain ⟨a, rest, rfl, hrest⟩ := Path.of_stmt h
      exact .cons (ih a hrest)

/-! ## What a program may execute, given what it may be answered

`AllUnder R P p`: as long as its answers satisfy `R`, the program executes statements that satisfy `P` only. -/

/-- Every statement the program can reach by answers that satisfy `R` satisfies `P`. -/
def AllUnder (R : (s : S) → Ans s → Prop) (P : S → Prop) : Prog S Ans ε α → Prop
  | .done _ => True
  | .stmt s k => P s ∧ ∀ a, R s a → (k a).AllUnder R P

/-- The program finishes with `r` on some answers that satisfy `R`. -/
def Returns (R : (s : S) → Ans s → Prop) (p : Prog S Ans ε α) (r : Except ε α) : Prop :=
  ∃ seen, (∀ x ∈ seen, R x.stmt x.answer) ∧ Path p seen (.done r)

variable {R : (s : S) → Ans s → Prop} {P : S → Prop}

theorem All.under {p : Prog S Ans ε α} (h : p.All P) : p.AllUnder R P := by
  induction p with
  | done r => trivial
  | stmt s k ih => exact ⟨h.1, fun a _ => ih a (h.2 a)⟩

theorem AllUnder.bind {p : Prog S Ans ε α} {f : α → Prog S Ans ε β} (hp : p.AllUnder R P)
    (hf : ∀ a, Returns R p (.ok a) → (f a).AllUnder R P) : (p >>= f).AllUnder R P := by
  induction p with
  | done r =>
      cases r with
      | ok a => exact hf a ⟨[], by simp, .refl _⟩
      | error e => trivial
  | stmt s k ih =>
      refine ⟨hp.1, fun a ha => ih a (hp.2 a ha) fun b hb => hf b ?_⟩
      obtain ⟨seen, hseen, hpath⟩ := hb
      exact ⟨⟨s, a⟩ :: seen, List.forall_mem_cons.mpr ⟨ha, hseen⟩, .cons hpath⟩

/-! ## What a program has seen when it executes a statement

`Follows J seen p`: whatever `p`, which has seen `seen` so far, comes to execute stands in the relation `J` to what
has been seen by then. -/

/-- Every statement the program can reach stands in the relation `J` to what has been seen ahead of it. -/
def Follows (J : List (Answered S Ans) → S → Prop) : List (Answered S Ans) → Prog S Ans ε α → Prop
  | _, .done _ => True
  | seen, .stmt s k => J seen s ∧ ∀ a, (k a).Follows J (seen ++ [⟨s, a⟩])

variable {J J' : List (Answered S Ans) → S → Prop} {seen : List (Answered S Ans)}

/-- What the program has seen so far can be seen otherwise. -/
theorem Follows.shift {seen' : List (Answered S Ans)} {p : Prog S Ans ε α} (h : p.Follows J seen)
    (hJ : ∀ later s, J (seen ++ later) s → J' (seen' ++ later) s) : p.Follows J' seen' := by
  induction p generalizing seen seen' with
  | done r => trivial
  | stmt s k ih =>
      refine ⟨by simpa using hJ [] s (by simpa using h.1), fun a => ih a (h.2 a) fun later s' hs' => ?_⟩
      rw [List.append_assoc] at hs' ⊢
      exact hJ _ s' hs'

theorem Follows.mono (hJ : ∀ seen s, J seen s → J' seen s) {p : Prog S Ans ε α} (h : p.Follows J seen) :
    p.Follows J' seen := h.shift fun later s => hJ (seen ++ later) s

theorem Follows.attempt {p : Prog S Ans ε α} (h : p.Follows J seen) : p.attempt.Follows J seen := by
  induction p generalizing seen with
  | done r => trivial
  | stmt s k ih => exact ⟨h.1, fun a => ih a (h.2 a)⟩

theorem Follows.and {p : Prog S Ans ε α} (h : p.Follows J seen) (h' : p.Follows J' seen) :
    p.Follows (fun seen s => J seen s ∧ J' seen s) seen := by
  induction p generalizing seen with
  | done r => trivial
  | stmt s k ih => exact ⟨⟨h.1, h'.1⟩, fun a => ih a (h.2 a) (h'.2 a)⟩

/-- The second program goes on with what the first one has seen. -/
theorem Follows.bind {p : Prog S Ans ε α} {f : α → Prog S Ans ε β} (hp : p.Follows J seen)
    (hf : ∀ a before, Path p before (.done (.ok a)) → (f a).Follows J (seen ++ before)) :
    (p >>= f).Follows J seen := by
  induction p generalizing seen with
  | done r =>
      cases r with
      | ok a => simpa using hf a [] (.refl _)
      | error e => trivial
  | stmt s k ih =>
      refine ⟨hp.1, fun a => ih a (hp.2 a) fun b before hbefore => ?_⟩
      rw [List.append_assoc]
      exact hf b (⟨s, a⟩ :: before) (.cons hbefore)

/-- What follows a pure result needs to be known only where there is one. -/
theorem Follows.ofExcept_bind {r : Except ε α} {f : α → Prog S Ans ε β}
    (h : ∀ a, r = .ok a → (f a).Follows J seen) : (ofExcept r >>= f).Follows J seen := by
  cases r with
  | ok a => exact h a rfl
  | error e => trivial

theorem All.follows {p : Prog S Ans ε α} (h : p.All P) (hJ : ∀ later s, P s → J (seen ++ later) s) :
    p.Follows J seen := by
  induction p generalizing seen with
  | done r => trivial
  | stmt s k ih =>
      refine ⟨by simpa using hJ [] s h.1, fun a => ih a (h.2 a) fun later s' hs' => ?_⟩
      simpa using hJ (⟨s, a⟩ :: later) s' hs'

/-- A program that keeps to `P` under answers that satisfy `R`. -/
theorem AllUnder.follows {p : Prog S Ans ε α} (h : (∀ x ∈ seen, R x.stmt x.answer) → p.AllUnder R P)
    (hJ : ∀ later s, ((∀ x ∈ seen ++ later, R x.stmt x.answer) → P s) → J (seen ++ later) s) :
    p.Follows J seen := by
  induction p generalizing seen with
  | done r => trivial
  | stmt s k ih =>
      refine ⟨by simpa using hJ [] s fun hseen => (h (by simpa using hseen)).1, fun a => ih a ?_ ?_⟩
      · intro hseen
        rw [List.forall_mem_append, List.forall_mem_singleton] at hseen
        exact (h hseen.1).2 a hseen.2
      · intro later s' hs'
        rw [List.append_assoc] at hs' ⊢
        exact hJ _ s' hs'

/-- A program at a statement has seen what the statement asks for. -/
theorem Follows.next {p : Prog S Ans ε α} {later : List (Answered S Ans)} {s : S} {k : Ans s → Prog S Ans ε α}
    (hp : p.Follows J seen) (h : Path p later (.stmt s k)) : J (seen ++ later) s := by
  generalize hq : Prog.stmt s k = q at h
  induction h generalizing seen with
  | refl =>
      subst hq
      simpa using hp.1
  | cons _ ih => simpa using ih (hp.2 _) hq

end Prog

namespace Pool

variable {S : Type} {Ans : S → Type} {ε α σ : Type}

variable (exec : (s : S) → σ → Ans s × σ)

/-- The pool before turn `j` of the schedule. -/
def before (P : Pool S Ans ε α σ) (sched : List Nat) (j : Nat) : Pool S Ans ε α σ := run exec P (sched.take j)

/-- At turn `j` call `i` executes a statement and is answered. -/
structure AnsweredAt (P : Pool S Ans ε α σ) (sched : List Nat) (i j : Nat) (x : Answered S Ans) : Prop where
  turn : sched[j]? = some i
  next : ∃ k, (before exec P sched j).procs[i]? = some (.stmt x.stmt k)
  answer : (exec x.stmt (before exec P sched j).state).1 = x.answer

variable {exec} {P : Pool S Ans ε α σ} {sched : List Nat}

theorem before_append (more : List Nat) {j : Nat} (h : j ≤ sched.length) :
    before exec P (sched ++ more) j = before exec P sched j := by
  unfold before
  rw [List.take_append_of_le_length h]

theorem before_length : before exec P sched sched.length = run exec P sched := by
  unfold before
  rw [List.take_length]

/-- The pool after a turn of the schedule. -/
theorem before_succ {i j : Nat} (h : sched[j]? = some i) :
    before exec P sched (j + 1) = step exec (before exec P sched j) i := by
  unfold before run
  rw [List.take_add_one, h, Option.toList_some, List.foldl_append]
  rfl

/-- What a statement leaves behind. -/
theorem AnsweredAt.after {i j : Nat} {x : Answered S Ans} (h : AnsweredAt exec P sched i j x) :
    (before exec P sched (j + 1)).state = (exec x.stmt (before exec P sched j).state).2 := by
  obtain ⟨k, hproc⟩ := h.next
  rw [before_succ h.turn, step_of_stmt hproc]

theorem before_succ_of_none {j : Nat} (h : sched[j]? = none) :
    before exec P sched (j + 1) = before exec P sched j := by
  unfold before
  rw [List.take_add_one, h, Option.toList_none, List.append_nil]

/-- At every turn a call executes a statement, or the pool stays as it is. -/
theorem exists_answeredAt (exec : (s : S) → σ → Ans s × σ) (P : Pool S Ans ε α σ) (sched : List Nat) (j : Nat) :
    (∃ i x, AnsweredAt exec P sched i j x) ∨ before exec P sched (j + 1) = before exec P sched j := by
  cases hturn : sched[j]? with
  | none => exact .inr (before_succ_of_none hturn)
  | some i =>
      rcases step_cases (before exec P sched j) i with hsame | ⟨s, k, hproc, _⟩
      · exact .inr ((before_succ hturn).trans hsame)
      · exact .inl ⟨i, ⟨s, (exec s (before exec P sched j).state).1⟩, hturn, ⟨k, hproc⟩, rfl⟩

/-- A statement is recorded. -/
theorem AnsweredAt.trace {i j : Nat} {x : Answered S Ans} (h : AnsweredAt exec P sched i j x) :
    (before exec P sched (j + 1)).trace = (i, x.stmt) :: (before exec P sched j).trace := by
  obtain ⟨k, hproc⟩ := h.next
  rw [before_succ h.turn, step_of_stmt hproc]

/-- What is recorded has been executed. -/
theorem exists_of_mem_trace (hP : P.trace = []) {i j : Nat} {s : S} (h : (i, s) ∈ (before exec P sched j).trace) :
    ∃ k < j, ∃ a, AnsweredAt exec P sched i k ⟨s, a⟩ := by
  induction j with
  | zero =>
      change (i, s) ∈ P.trace at h
      rw [hP] at h
      cases h
  | succ j ih =>
      have hearlier (h : (i, s) ∈ (before exec P sched j).trace) :
          ∃ k < j + 1, ∃ a, AnsweredAt exec P sched i k ⟨s, a⟩ := by
        obtain ⟨k, hk, hat⟩ := ih h
        exact ⟨k, Nat.lt_succ_of_lt hk, hat⟩
      rcases exists_answeredAt exec P sched j with ⟨i', ⟨s', a⟩, hx⟩ | hsame
      · rw [hx.trace] at h
        rcases List.mem_cons.mp h with hnow | hbefore
        · obtain ⟨rfl, rfl⟩ := Prod.mk.inj hnow
          exact ⟨j, Nat.lt_succ_self j, a, hx⟩
        · exact hearlier hbefore
      · rw [hsame] at h
        exact hearlier h

theorem AnsweredAt.append {i j : Nat} {x : Answered S Ans} (h : AnsweredAt exec P sched i j x) (more : List Nat) :
    AnsweredAt exec P (sched ++ more) i j x := by
  have hj : j < sched.length := (List.getElem?_eq_some_iff.mp h.turn).1
  have hbefore : before exec P (sched ++ more) j = before exec P sched j := before_append more (Nat.le_of_lt hj)
  refine ⟨?_, ?_, ?_⟩
  · rw [List.getElem?_append_left hj]
    exact h.turn
  · rw [hbefore]
    exact h.next
  · rw [hbefore]
    exact h.answer

theorem AnsweredAt.lt {i j : Nat} {x : Answered S Ans} (h : AnsweredAt exec P sched i j x) : j < sched.length :=
  (List.getElem?_eq_some_iff.mp h.turn).1

/-- **What the calls of a pool have seen.** Every call is where its answers have led it, and each of them was
    given at a turn of its own, in their order. -/
theorem exists_path (sched : List Nat) {i : Nat} {p q : Prog S Ans ε α} (hp : P.procs[i]? = some p)
    (hq : (run exec P sched).procs[i]? = some q) :
    ∃ steps : List (Nat × Answered S Ans), Prog.Path p (steps.map (·.2)) q ∧
      (steps.map (·.1)).Pairwise (· < ·) ∧ ∀ x ∈ steps, AnsweredAt exec P sched i x.1 x.2 := by
  induction sched using List.reverseRecOn generalizing q with
  | nil =>
      obtain rfl := Option.some.inj (hp.symm.trans hq)
      exact ⟨[], .refl p, .nil, by simp⟩
  | append_singleton sched j ih =>
      rw [run, List.foldl_append] at hq
      change (step exec (run exec P sched) j).procs[i]? = some q at hq
      have hbefore : before exec P (sched ++ [j]) sched.length = run exec P sched := by
        rw [before_append _ (Nat.le_refl _), before_length]
      rcases step_cases (run exec P sched) j with hstep | ⟨s, k, hproc, hstep⟩
      · rw [hstep] at hq
        obtain ⟨steps, hpath, horder, hsteps⟩ := ih hq
        exact ⟨steps, hpath, horder, fun x hx => (hsteps x hx).append [j]⟩
      · rw [hstep] at hq
        by_cases hij : j = i
        · -- the turn is the call's own
          subst hij
          obtain ⟨steps, hpath, horder, hsteps⟩ := ih hproc
          have hlen : j < (run exec P sched).procs.length := (List.getElem?_eq_some_iff.mp hproc).1
          have hnow : q = k (exec s (run exec P sched).state).1 := by
            simpa [List.getElem?_set_self hlen] using hq.symm
          subst hnow
          refine ⟨steps ++ [(sched.length, ⟨s, (exec s (run exec P sched).state).1⟩)], ?_, ?_, ?_⟩
          · rw [List.map_append]
            exact hpath.snoc _
          · rw [List.map_append, List.pairwise_append]
            refine ⟨horder, List.pairwise_singleton _ _, fun t ht u hu => ?_⟩
            obtain ⟨x, hx, rfl⟩ := List.mem_map.mp ht
            obtain rfl := List.mem_singleton.mp hu
            exact (hsteps x hx).lt
          · intro x hx
            rcases List.mem_append.mp hx with hx | hx
            · exact (hsteps x hx).append [j]
            · obtain rfl := List.mem_singleton.mp hx
              exact ⟨by simp, ⟨k, by rw [hbefore]; exact hproc⟩, by rw [hbefore]⟩
        · have hsame : (run exec P sched).procs[i]? = some q := by
            simpa [List.getElem?_set_ne hij] using hq
          obtain ⟨steps, hpath, horder, hsteps⟩ := ih hsame
          exact ⟨steps, hpath, horder, fun x hx => (hsteps x hx).append [j]⟩

/-- No call is started later. -/
theorem exists_proc {i j : Nat} {q : Prog S Ans ε α} (h : (before exec P sched j).procs[i]? = some q) :
    ∃ p, P.procs[i]? = some p := by
  have hlength (l : List Nat) (Q : Pool S Ans ε α σ) : (run exec Q l).procs.length = Q.procs.length := by
    induction l generalizing Q with
    | nil => rfl
    | cons i l ih =>
        refine (ih (step exec Q i)).trans ?_
        rcases step_cases Q i with hsame | ⟨s, k, _, hnext⟩
        · rw [hsame]
        · rw [hnext, List.length_set]
  have hi : i < P.procs.length := hlength (sched.take j) P ▸ (List.getElem?_eq_some_iff.mp h).1
  exact ⟨_, List.getElem?_eq_getElem hi⟩

/-- Call `i` has seen `seen`, in this order, at turns ahead of turn `j`. -/
def Saw (exec : (s : S) → σ → Ans s × σ) (P : Pool S Ans ε α σ) (sched : List Nat) (i j : Nat)
    (seen : List (Answered S Ans)) : Prop :=
  ∃ turns : List Nat, (∀ turn ∈ turns, turn < j) ∧ turns.Pairwise (· < ·) ∧
    turns.Forall₂ (AnsweredAt exec P sched i) seen

theorem Saw.sublist {i j : Nat} {seen l : List (Answered S Ans)} (h : Saw exec P sched i j seen)
    (hl : l.Sublist seen) : Saw exec P sched i j l := by
  obtain ⟨turns, hlt, horder, hat⟩ := h
  obtain ⟨turns', hat', hturns'⟩ : ∃ turns' : List Nat, turns'.Forall₂ (AnsweredAt exec P sched i) l ∧
      turns'.Sublist turns := by
    clear hlt horder
    induction hl generalizing turns with
    | slnil => exact ⟨[], .nil, List.nil_sublist turns⟩
    | cons x _ ih =>
        cases hat with
        | cons _ hat =>
            obtain ⟨turns', hat', hturns'⟩ := ih _ hat
            exact ⟨turns', hat', hturns'.cons _⟩
    | cons_cons x _ ih =>
        cases hat with
        | cons hx hat =>
            obtain ⟨turns', hat', hturns'⟩ := ih _ hat
            exact ⟨_, .cons hx hat', hturns'.cons_cons _⟩
  exact ⟨turns', fun turn hturn => hlt turn (hturns'.subset hturn), horder.sublist hturns', hat'⟩

theorem Saw.mem {i j : Nat} {seen : List (Answered S Ans)} (h : Saw exec P sched i j seen) {x : Answered S Ans}
    (hx : x ∈ seen) : ∃ turn < j, AnsweredAt exec P sched i turn x := by
  obtain ⟨turns, hlt, _, hat⟩ := h.sublist (List.singleton_sublist.mpr hx)
  cases hat with
  | @cons turn _ _ _ hx _ => exact ⟨turn, hlt turn List.mem_cons_self, hx⟩

/-- What a call has become by a turn, it has become by what it has seen. -/
theorem exists_saw {i j : Nat} {p q : Prog S Ans ε α} (hp : P.procs[i]? = some p)
    (hq : (before exec P sched j).procs[i]? = some q) :
    ∃ seen, Prog.Path p seen q ∧ Saw exec P sched i j seen := by
  obtain ⟨steps, hpath, horder, hsteps⟩ := exists_path (sched.take j) hp hq
  refine ⟨_, hpath, steps.map (·.1), ?_, horder, ?_⟩
  · intro turn hturn
    obtain ⟨x, hx, rfl⟩ := List.mem_map.mp hturn
    exact Nat.lt_of_lt_of_le (hsteps x hx).lt (List.length_take_le j sched)
  · rw [List.forall₂_map_left_iff, List.forall₂_map_right_iff, List.forall₂_same]
    intro x hx
    simpa using (hsteps x hx).append (sched.drop j)

/-- A call has seen what its program asks for ahead of a statement. -/
theorem saw_of_follows {i j : Nat} {p : Prog S Ans ε α} {J : List (Answered S Ans) → S → Prop}
    {x : Answered S Ans} (hp : P.procs[i]? = some p) (hJ : p.Follows J []) (hx : AnsweredAt exec P sched i j x) :
    ∃ seen, Saw exec P sched i j seen ∧ J seen x.stmt := by
  obtain ⟨k, hk⟩ := hx.next
  obtain ⟨seen, hpath, hsaw⟩ := exists_saw hp hk
  exact ⟨seen, hsaw, by simpa using hJ.next hpath⟩

/-- A call that has finished has finished. -/
theorem before_done {i j j' : Nat} {r : Except ε α} (hj : j ≤ j')
    (h : (before exec P sched j).procs[i]? = some (.done r)) : (before exec P sched j').procs[i]? = some (.done r) := by
  induction hj with
  | refl => exact h
  | @step j' _ ih =>
      cases hturn : sched[j']? with
      | none => rwa [before_succ_of_none hturn]
      | some i' =>
          rw [before_succ hturn]
          rcases step_cases (before exec P sched j') i' with hsame | ⟨s, k, hproc, hnext⟩
          · rwa [hsame]
          · have hne : i' ≠ i := by
              rintro rfl
              exact nomatch hproc.symm.trans ih
            rw [hnext]
            simpa [List.getElem?_set_ne hne] using ih

/-- What holds of the state has held from a turn on, or since a statement that brought it about. -/
theorem exists_since (Q : σ → Prop) {j j' : Nat} (hj : j ≤ j') (h : Q (before exec P sched j').state) :
    (∀ k, j ≤ k → k ≤ j' → Q (before exec P sched k).state) ∨
    ∃ k i x, j ≤ k ∧ k < j' ∧ AnsweredAt exec P sched i k x ∧ ¬ Q (before exec P sched k).state ∧
      ∀ k', k < k' → k' ≤ j' → Q (before exec P sched k').state := by
  induction hj with
  | refl =>
      left
      intro k hk hk'
      obtain rfl := Nat.le_antisymm hk' hk
      exact h
  | @step j' hj ih =>
      have hlast (k : Nat) (hk : k ≤ j' + 1) (hne : ¬ k ≤ j') : Q (before exec P sched k).state := by
        obtain rfl : k = j' + 1 := by omega
        exact h
      by_cases hbefore : Q (before exec P sched j').state
      · rcases ih hbefore with hall | ⟨k, i, x, hk, hlt, hx, hnot, hsince⟩
        · left
          intro k hk hk'
          by_cases hle : k ≤ j'
          · exact hall k hk hle
          · exact hlast k hk' hle
        · right
          refine ⟨k, i, x, hk, Nat.lt_succ_of_lt hlt, hx, hnot, fun k' hk' hle => ?_⟩
          by_cases hle' : k' ≤ j'
          · exact hsince k' hk' hle'
          · exact hlast k' hle hle'
      · right
        rcases exists_answeredAt exec P sched j' with ⟨i, x, hx⟩ | hsame
        · refine ⟨j', i, x, hj, Nat.lt_succ_self j', hx, hbefore, fun k' hk' hle => hlast k' hle (by omega)⟩
        · rw [hsame] at h
          exact absurd h hbefore

/-- What holds of the state goes on to hold up to a turn, or until a statement ends it. -/
theorem exists_until (Q : σ → Prop) {j j' : Nat} (hj : j ≤ j') (h : Q (before exec P sched j).state) :
    (∀ k, j ≤ k → k ≤ j' → Q (before exec P sched k).state) ∨
    ∃ k i x, j ≤ k ∧ k < j' ∧ AnsweredAt exec P sched i k x ∧
      (∀ k', j ≤ k' → k' ≤ k → Q (before exec P sched k').state) ∧ ¬ Q (before exec P sched (k + 1)).state := by
  induction hj with
  | refl =>
      left
      intro k hk hk'
      obtain rfl := Nat.le_antisymm hk' hk
      exact h
  | @step j' hj ih =>
      rcases ih with hall | ⟨k, i, x, hk, hlt, hended⟩
      · by_cases hlast : Q (before exec P sched (j' + 1)).state
        · left
          intro k hk hk'
          by_cases hle : k ≤ j'
          · exact hall k hk hle
          · obtain rfl : k = j' + 1 := by omega
            exact hlast
        · right
          rcases exists_answeredAt exec P sched j' with ⟨i, x, hx⟩ | hsame
          · exact ⟨j', i, x, hj, Nat.lt_succ_self j', hx, hall, hlast⟩
          · rw [hsame] at hlast
            exact absurd (hall j' hj (Nat.le_refl j')) hlast
      · exact .inr ⟨k, i, x, hk, Nat.lt_succ_of_lt hlt, hended⟩

/-- A property of the state that every turn keeps holds from a turn on. -/
theorem before_stable (Inv : σ → Prop) (hstep : ∀ s w, Inv w → Inv (exec s w).2) {j j' : Nat} (hj : j ≤ j')
    (h : Inv (before exec P sched j).state) : Inv (before exec P sched j').state := by
  induction hj with
  | refl => exact h
  | @step j' _ ih =>
      rcases exists_answeredAt exec P sched j' with ⟨i, x, hx⟩ | hsame
      · rw [hx.after]
        exact hstep x.stmt _ ih
      · rwa [hsame]

end Pool

end Logic
