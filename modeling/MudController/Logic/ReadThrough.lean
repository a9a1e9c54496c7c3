import Mathlib.Data.List.Basic
import Mathlib.Data.Nat.Init

/-!
# `Logic.ReadThrough` — a cache behind a lock, in front of a slow store

A reader takes what is in the cache. If there is nothing, it takes the lock, looks again, loads from the store and
fills the cache. A writer stores first and then, when it gets the lock, clears the cache. Storing needs no lock: what
a reader has loaded can be outdated when it fills the cache with it. It is not for long: `Coherent` says that a
writer is then still to clear the cache, and `FromThen` that the cache, once it was cleared, is only filled with what
was in the store after that.

The lock is not part of the state: it is free when no party is inside.
-/

namespace Logic.ReadThrough

/-- Where a party is. -/
inductive Phase (K : Type) where
  /-- It neither holds the lock nor owes anything. -/
  | outside
  /-- It holds the lock. -/
  | inside
  /-- It holds the lock and has loaded this. -/
  | loaded (k : K)
  /-- It has written to the store and is still to clear the cache. -/
  | stored

/-- The store, the cache and the parties. -/
structure State (V K : Type) where
  store : V
  cache : Option K
  parties : List (Phase K)

variable {V K : Type}

/-- Nobody holds the lock. -/
def State.Free (s : State V K) : Prop :=
  ∀ i : Nat, s.parties[i]? ≠ some .inside ∧ ∀ k, s.parties[i]? ≠ some (.loaded k)

/-- A writer is still to clear the cache. -/
def State.Pending (s : State V K) : Prop := ∃ i : Nat, s.parties[i]? = some .stored

/-- The party `i` goes on to the phase. -/
def State.move (s : State V K) (i : Nat) (phase : Phase K) : State V K :=
  { s with parties := s.parties.set i phase }

/-- One step; it is labelled with what a reader is served in it. `load` is what the store is read as. -/
inductive Step (load : V → Option K) : State V K → Option K → State V K → Prop where
  | idle (s : State V K) : Step load s none s
  | hit {s : State V K} {k : K} (hcache : s.cache = some k) : Step load s (some k) s
  | enter {s : State V K} {i : Nat} (hi : s.parties[i]? = some .outside) (hfree : s.Free) :
      Step load s none (s.move i .inside)
  | hitInside {s : State V K} {i : Nat} {k : K} (hi : s.parties[i]? = some .inside) (hcache : s.cache = some k) :
      Step load s (some k) (s.move i .outside)
  | load {s : State V K} {i : Nat} {k : K} (hi : s.parties[i]? = some .inside) (hload : load s.store = some k) :
      Step load s none (s.move i (.loaded k))
  | fill {s : State V K} {i : Nat} {k : K} (hi : s.parties[i]? = some (.loaded k)) :
      Step load s (some k) { s.move i .outside with cache := some k }
  | leave {s : State V K} {i : Nat} (hi : s.parties[i]? = some .inside) : Step load s none (s.move i .outside)
  | evict {s : State V K} {i : Nat} (hi : s.parties[i]? = some .inside) :
      Step load s none { s.move i .outside with cache := none }
  | store {s : State V K} {i : Nat} (hi : s.parties[i]? = some .outside) (v : V) :
      Step load s none { s.move i .stored with store := v }
  | clear {s : State V K} {i : Nat} (hi : s.parties[i]? = some .stored) (hfree : s.Free) :
      Step load s none { s.move i .outside with cache := none }

/-! ## Moves -/

theorem move_cases {s : State V K} {i j : Nat} {phase phase' : Phase K}
    (h : (s.move i phase).parties[j]? = some phase') : phase' = phase ∨ s.parties[j]? = some phase' := by
  unfold State.move at h
  by_cases hij : i = j
  · subst hij
    rw [List.getElem?_set_self'] at h
    cases hl : s.parties[i]? with
    | none => simp [hl] at h
    | some _ => exact .inl (by simpa [hl] using h.symm)
  · exact .inr (by rwa [List.getElem?_set_ne hij] at h)

/-- A party that stays where it is changes nothing. -/
theorem move_self {s : State V K} {i : Nat} {phase : Phase K} (h : s.parties[i]? = some phase) : s.move i phase = s := by
  obtain ⟨hlt, heq⟩ := List.getElem?_eq_some_iff.mp h
  unfold State.move
  rw [← heq, List.set_getElem_self]

/-- A party that moves is not the one that is still to clear the cache. -/
theorem State.Pending.move {s : State V K} (h : s.Pending) {i : Nat} {before phase : Phase K}
    (hi : s.parties[i]? = some before) (hbefore : before ≠ .stored) : (s.move i phase).Pending := by
  obtain ⟨j, hj⟩ := h
  have hij : i ≠ j := by
    rintro rfl
    exact hbefore (Option.some.inj (hi.symm.trans hj))
  exact ⟨j, by simpa [State.move, List.getElem?_set_ne hij] using hj⟩

/-! ## What the cache can hold -/

/-- The cache, and whatever is about to fill it, has the property. -/
structure State.Holds (P : K → Prop) (s : State V K) : Prop where
  cache : ∀ k, s.cache = some k → P k
  loaded : ∀ (i : Nat) (k : K), s.parties[i]? = some (.loaded k) → P k

/-- The cache that has just been cleared. -/
theorem State.Holds.cleared {P : K → Prop} {s : State V K} (hfree : s.Free) (hcache : s.cache = none) : s.Holds P := by
  refine ⟨?_, ?_⟩
  · intro k hk
    simp [hcache] at hk
  · intro i k hi
    exact absurd hi ((hfree i).2 k)

theorem State.Holds.move {P : K → Prop} {s : State V K} (h : s.Holds P) (i : Nat) {phase : Phase K}
    (hphase : ∀ k, phase = .loaded k → P k) : (s.move i phase).Holds P := by
  refine ⟨h.cache, ?_⟩
  intro j k hj
  rcases move_cases hj with heq | hj
  · exact hphase k heq.symm
  · exact h.loaded j k hj

/-- What is served has the property that the cache and whatever is loaded have, and they keep it. -/
theorem State.Holds.step {P : K → Prop} {load : V → Option K} {s s' : State V K} {served : Option K} (h : s.Holds P)
    (hstep : Step load s served s') (hload : ∀ k, load s.store = some k → P k) :
    s'.Holds P ∧ ∀ k, served = some k → P k := by
  have houtside (i : Nat) : (s.move i .outside).Holds P := h.move i nofun
  have hstored (i : Nat) : (s.move i .stored).Holds P := h.move i nofun
  cases hstep with
  | idle => exact ⟨h, nofun⟩
  | hit hcache => exact ⟨h, fun k hk => h.cache k (hcache.trans hk)⟩
  | enter hi hfree => exact ⟨h.move _ nofun, nofun⟩
  | hitInside hi hcache => exact ⟨houtside _, fun k hk => h.cache k (hcache.trans hk)⟩
  | @load i k hi hloaded =>
      refine ⟨h.move i ?_, nofun⟩
      rintro k' ⟨⟩
      exact hload k hloaded
  | @fill i k hi =>
      have hk : P k := h.loaded i k hi
      refine ⟨⟨?_, (houtside i).loaded⟩, ?_⟩
      · rintro k' ⟨⟩
        exact hk
      · rintro k' ⟨⟩
        exact hk
  | leave hi => exact ⟨houtside _, nofun⟩
  | @evict i hi => exact ⟨⟨nofun, (houtside i).loaded⟩, nofun⟩
  | @store i hi v => exact ⟨⟨h.cache, (hstored i).loaded⟩, nofun⟩
  | @clear i hi hfree => exact ⟨⟨nofun, (houtside i).loaded⟩, nofun⟩

/-! ## Runs -/

/-- A run: what is served at every turn, and the states between. -/
structure Run (load : V → Option K) where
  state : Nat → State V K
  served : Nat → Option K
  step : ∀ n, Step load (state n) (served n) (state (n + 1))

/-- What was in the store at some turn from `m` to `n`. -/
def Run.FromThen {load : V → Option K} (r : Run load) (m n : Nat) (k : K) : Prop :=
  ∃ t, m ≤ t ∧ t ≤ n ∧ load (r.state t).store = some k

/-- From a turn on at which the cache is empty and the lock is free, the cache holds nothing that was in the store
    before. -/
theorem Run.holds_fromThen {load : V → Option K} (r : Run load) {m n : Nat} (hmn : m ≤ n)
    (hfree : (r.state m).Free) (hcache : (r.state m).cache = none) : (r.state n).Holds (r.FromThen m n) := by
  induction n, hmn using Nat.le_induction with
  | base => exact .cleared hfree hcache
  | succ n hmn ih =>
      have hwider : (r.state n).Holds (r.FromThen m (n + 1)) := by
        have hweaken (k : K) : r.FromThen m n k → r.FromThen m (n + 1) k := by
          rintro ⟨t, hmt, htn, ht⟩
          exact ⟨t, hmt, by omega, ht⟩
        exact ⟨fun k hk => hweaken k (ih.cache k hk), fun i k hi => hweaken k (ih.loaded i k hi)⟩
      exact (hwider.step (r.step n) fun k hk => ⟨n, hmn, by omega, hk⟩).1

/-- **Nothing stale.** After the cache was cleared, a reader is only served what was in the store since. -/
theorem Run.served_fromThen {load : V → Option K} (r : Run load) {m n : Nat} {k : K} (hmn : m ≤ n)
    (hfree : (r.state m).Free) (hcache : (r.state m).cache = none) (hserved : r.served n = some k) :
    r.FromThen m n k :=
  ((r.holds_fromThen hmn hfree hcache).step (r.step n) fun _ hk => ⟨n, hmn, Nat.le_refl n, hk⟩).2 k hserved

/-! ## Coherence -/

/-- What is cached or loaded is what is in the store, unless a writer is still to clear the cache. -/
def State.Coherent (load : V → Option K) (s : State V K) : Prop :=
  s.Pending ∨ s.Holds fun k => load s.store = some k

theorem State.Coherent.step {load : V → Option K} {s s' : State V K} {served : Option K} (h : s.Coherent load)
    (hstep : Step load s served s') : s'.Coherent load := by
  rcases h with hpending | hholds
  · cases hstep with
    | idle | hit => exact .inl hpending
    | enter hi | hitInside hi | load hi | leave hi => exact .inl (hpending.move hi (by simp))
    | @fill i k hi =>
        have hmoved : (s.move i .outside).Pending := hpending.move hi (by simp)
        exact .inl hmoved
    | @evict i hi =>
        have hmoved : (s.move i .outside).Pending := hpending.move hi (by simp)
        exact .inl hmoved
    | @store i hi v =>
        have hmoved : (s.move i .stored).Pending := hpending.move hi (by simp)
        exact .inl hmoved
    | @clear i hi hfree =>
        -- nobody has loaded anything, so the cache that is cleared stays empty
        have hempty : State.Holds (fun k => load s.store = some k) { s with cache := none } :=
          .cleared hfree rfl
        exact .inr (hempty.move i nofun)
  · have hkept := (hholds.step hstep fun k hk => hk).1
    cases hstep with
    | @store i hi v =>
        have hlt : i < s.parties.length := (List.getElem?_eq_some_iff.mp hi).1
        exact .inl ⟨i, List.getElem?_set_self hlt⟩
    | _ => exact .inr hkept

theorem Run.coherent {load : V → Option K} (r : Run load) (h : (r.state 0).Coherent load) (n : Nat) :
    (r.state n).Coherent load := by
  induction n with
  | zero => exact h
  | succ n ih => exact ih.step (r.step n)

/-- **Exact when settled.** While no writer is still to clear the cache, a reader is served what is in the store. -/
theorem Run.served_exact {load : V → Option K} (r : Run load) (h : (r.state 0).Coherent load) {n : Nat} {k : K}
    (hsettled : ¬ (r.state n).Pending) (hserved : r.served n = some k) : load (r.state n).store = some k := by
  have hholds := (r.coherent h n).resolve_left hsettled
  exact (hholds.step (r.step n) fun _ hk => hk).2 k hserved

end Logic.ReadThrough
