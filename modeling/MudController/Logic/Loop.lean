/-!
# `Logic.Loop` — loops that end by `break`

`loop { … }` of a program has no bound of its own: a turn of its body goes on with a new state, ends the loop,
or fails and ends the whole call. Here the loop is given a number of turns; `loop_total` is the rule for
total correctness: with an invariant and a measure that every turn decreases, some number of turns suffices,
and more of them change nothing.
-/

namespace Logic

/-- What a turn of a loop ends with: `continue`, or `break` with a result. -/
inductive Turn (σ ρ : Type) where
  | again (s : σ)
  | stop (r : ρ)

variable {σ ρ ε : Type}

/-- At most `turns` turns of a loop; `none` if they are not enough. -/
def loop (body : σ → Except ε (Turn σ ρ)) : Nat → σ → Option (Except ε ρ)
  | 0, _ => none
  | turns + 1, s =>
    match body s with
    | .error e => some (.error e)
    | .ok (.again s') => loop body turns s'
    | .ok (.stop r) => some (.ok r)

/-- A turn keeps the loop on its way: it fails or ends with what is wanted, or goes on with the invariant and a
    measure below `bound`. -/
inductive OnItsWay (Inv : σ → Prop) (μ : σ → Nat) (Post : Except ε ρ → Prop) (bound : Nat) :
    Except ε (Turn σ ρ) → Prop where
  | fails (e : ε) (hpost : Post (.error e)) : OnItsWay Inv μ Post bound (.error e)
  | again (s : σ) (hinv : Inv s) (hdecreases : μ s < bound) : OnItsWay Inv μ Post bound (.ok (.again s))
  | stop (r : ρ) (hpost : Post (.ok r)) : OnItsWay Inv μ Post bound (.ok (.stop r))

/-- **Loop rule.** A loop whose turns keep an invariant and decrease a measure ends with what is wanted. -/
theorem loop_total {body : σ → Except ε (Turn σ ρ)} {Inv : σ → Prop} {μ : σ → Nat} {Post : Except ε ρ → Prop}
    (hbody : ∀ s, Inv s → OnItsWay Inv μ Post (μ s) (body s)) {s : σ} (h : Inv s) :
    ∃ r, Post r ∧ ∀ turns, μ s < turns → loop body turns s = some r := by
  induction hμ : μ s using Nat.strongRecOn generalizing s with
  | ind bound ih =>
      have hturn := hbody s h
      rw [hμ] at hturn
      generalize hrun : body s = turn at hturn
      cases hturn with
      | fails e hpost =>
          refine ⟨_, hpost, fun turns hturns => ?_⟩
          obtain ⟨turns, rfl⟩ := Nat.exists_eq_succ_of_ne_zero (Nat.ne_zero_of_lt hturns)
          rw [loop, hrun]
      | stop r hpost =>
          refine ⟨_, hpost, fun turns hturns => ?_⟩
          obtain ⟨turns, rfl⟩ := Nat.exists_eq_succ_of_ne_zero (Nat.ne_zero_of_lt hturns)
          rw [loop, hrun]
      | again s' hinv hdecreases =>
          -- the rest of the loop needs one turn less
          obtain ⟨r, hpost, hrest⟩ := ih (μ s') hdecreases hinv rfl
          refine ⟨r, hpost, fun turns hturns => ?_⟩
          obtain ⟨turns, rfl⟩ := Nat.exists_eq_succ_of_ne_zero (Nat.ne_zero_of_lt hturns)
          rw [loop, hrun]
          exact hrest turns (Nat.lt_of_lt_of_le hdecreases (Nat.lt_succ_iff.mp hturns))

/-! ## Loops one after another -/

/-- The next loop starts with the result of the one before, if it has one. -/
def andThen {α β : Type} (first : Option (Except ε α)) (next : α → Option (Except ε β)) : Option (Except ε β) :=
  match first with
  | some (.ok a) => next a
  | some (.error e) => some (.error e)
  | none => none

/-- With enough turns `run` ends, always with the same result, and it is as wanted. -/
def Ends (run : Nat → Option ρ) (Post : ρ → Prop) : Prop :=
  ∃ r, Post r ∧ ∃ bound, ∀ turns, bound ≤ turns → run turns = some r

theorem ends_now {r : ρ} {Post : ρ → Prop} (h : Post r) : Ends (fun _ => some r) Post :=
  ⟨r, h, 0, fun _ _ => rfl⟩

/-- `loop_total` for a loop in a sequence. -/
theorem loop_ends {body : σ → Except ε (Turn σ ρ)} {Inv : σ → Prop} {μ : σ → Nat} {Post : Except ε ρ → Prop}
    (hbody : ∀ s, Inv s → OnItsWay Inv μ Post (μ s) (body s)) {s : σ} (h : Inv s) :
    Ends (fun turns => loop body turns s) Post := by
  obtain ⟨r, hpost, hrun⟩ := loop_total hbody h
  exact ⟨r, hpost, μ s + 1, fun turns hturns => hrun turns hturns⟩

/-- More turns change no result. -/
def Settles (run : Nat → Option ρ) : Prop :=
  ∀ ⦃turns more r⦄, turns ≤ more → run turns = some r → run more = some r

theorem settles_now (r : Option ρ) : Settles fun _ => r := fun _ _ _ _ h => h

theorem loop_settles (body : σ → Except ε (Turn σ ρ)) (s : σ) : Settles fun turns => loop body turns s := by
  intro turns more r hle h
  replace h : loop body turns s = some r := h
  show loop body more s = some r
  induction turns generalizing more s with
  | zero => cases h
  | succ turns ih =>
      obtain ⟨more, rfl⟩ := Nat.exists_eq_succ_of_ne_zero (Nat.ne_zero_of_lt hle)
      rw [loop] at h ⊢
      split
      · next e hbody => rwa [hbody] at h
      · next s' hbody =>
          rw [hbody] at h
          exact ih s' (Nat.le_of_succ_le_succ hle) h
      · next r' hbody => rwa [hbody] at h

theorem Settles.andThen {α β : Type} {first : Nat → Option (Except ε α)} {next : α → Nat → Option (Except ε β)}
    (hfirst : Settles first) (hnext : ∀ a, Settles (next a)) :
    Settles fun turns => Logic.andThen (first turns) fun a => next a turns := by
  intro turns more r hle h
  replace h : Logic.andThen (first turns) (fun a => next a turns) = some r := h
  show Logic.andThen (first more) (fun a => next a more) = some r
  cases hrun : first turns with
  | none =>
      rw [hrun] at h
      cases h
  | some result =>
      rw [hrun] at h
      rw [hfirst hle hrun]
      cases result with
      | error e => exact h
      | ok a => exact hnext a hle h

/-- So a result is the one that enough turns have. -/
theorem Ends.result {run : Nat → Option ρ} {Post : ρ → Prop} {turns : Nat} {r : ρ} (h : Ends run Post)
    (hsettles : Settles run) (hrun : run turns = some r) : Post r := by
  obtain ⟨r', hpost, bound, hends⟩ := h
  have hmore := hsettles (Nat.le_max_left turns bound) hrun
  rw [hends _ (Nat.le_max_right turns bound)] at hmore
  exact Option.some.inj hmore ▸ hpost

/-- A sequence has a result if its first loop has one, from which the next goes on. -/
theorem ok_of_andThen {α β : Type} {first : Option (Except ε α)} {next : α → Option (Except ε β)} {b : β}
    (h : andThen first next = some (.ok b)) : ∃ a, first = some (.ok a) ∧ next a = some (.ok b) := by
  match first, h with
  | some (.ok a), h => exact ⟨a, rfl, h⟩

/-- **Sequence rule.** -/
theorem Ends.andThen {α β : Type} {first : Nat → Option (Except ε α)} {next : α → Nat → Option (Except ε β)}
    {Mid : Except ε α → Prop} {Post : Except ε β → Prop} (hfirst : Ends first Mid)
    (herror : ∀ e, Mid (.error e) → Post (.error e)) (hok : ∀ a, Mid (.ok a) → Ends (next a) Post) :
    Ends (fun turns => Logic.andThen (first turns) fun a => next a turns) Post := by
  obtain ⟨r, hmid, bound, hrun⟩ := hfirst
  cases r with
  | error e =>
      refine ⟨_, herror e hmid, bound, fun turns hturns => ?_⟩
      show Logic.andThen (first turns) _ = _
      rw [hrun turns hturns]
      rfl
  | ok a =>
      obtain ⟨r', hpost, bound', hrun'⟩ := hok a hmid
      refine ⟨r', hpost, max bound bound', fun turns hturns => ?_⟩
      show Logic.andThen (first turns) _ = _
      rw [hrun turns (Nat.le_trans (Nat.le_max_left _ _) hturns)]
      exact hrun' turns (Nat.le_trans (Nat.le_max_right _ _) hturns)

end Logic
