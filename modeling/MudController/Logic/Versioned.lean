import Mathlib.Data.List.Forall2
import Mathlib.Logic.Relation

/-!
# `Logic.Versioned` — readers of a view that is labelled by a counter

Writers change a view and announce each change by counting up: they read the counter and, in a later step,
store one more than they read. Readers are handed the counter as a label and, in a later step, the view; a
reader whose label is still the counter is told nothing new. Reading and storing are separate steps, so
two writers may count up once only. `current_of_settled` says that this is harmless as long as no
writer stores less than the counter already is.
-/

namespace Logic.Versioned

/-- Where a writer is. -/
inductive Phase where
  /-- It owes nothing: it has changed nothing, or has announced its change. -/
  | quiet
  /-- It has changed the view. -/
  | changed
  /-- It has changed the view and has read the counter. -/
  | counted (n : Nat)

/-- A reader: the label of a request in progress, and the labelled view it was handed last. -/
structure Reader (V : Type) where
  label : Option Nat
  held : Option (Nat × V)

structure State (V : Type) where
  view : V
  counter : Nat
  writers : List Phase
  readers : List (Reader V)

variable {V : Type}

/-- One step of a writer or a reader. -/
inductive Step : State V → State V → Prop where
  | change (s : State V) (i : Nat) (view : V) (hi : s.writers[i]? = some .quiet) :
      Step s { s with view := view, writers := s.writers.set i .changed }
  | count (s : State V) (i : Nat) (hi : s.writers[i]? = some .changed) :
      Step s { s with writers := s.writers.set i (.counted s.counter) }
  | bump (s : State V) (i n : Nat) (hi : s.writers[i]? = some (.counted n)) (hforward : s.counter ≤ n + 1) :
      Step s { s with counter := n + 1, writers := s.writers.set i .quiet }
  | label (s : State V) (j : Nat) (r : Reader V) (hj : s.readers[j]? = some r) :
      Step s { s with readers := s.readers.set j { r with label := some s.counter } }
  | forget (s : State V) (j : Nat) (r : Reader V) (hj : s.readers[j]? = some r) :
      Step s { s with readers := s.readers.set j { r with label := none } }
  | receive (s : State V) (j n : Nat) (r : Reader V) (hj : s.readers[j]? = some r) (hn : r.label = some n) :
      Step s { s with readers := s.readers.set j ⟨none, some (n, s.view)⟩ }

/-- A writer that will count the counter beyond `n`. -/
def Phase.Exceeds (n : Nat) : Phase → Prop
  | .quiet => False
  | .changed => True
  | .counted m => n ≤ m

/-- A view labelled `n` is no cause for concern: it is the current one, or its label has expired, or a
    writer will make it expire. -/
def State.Covers (s : State V) (n : Nat) (view : V) : Prop :=
  view = s.view ∨ n < s.counter ∨ ∃ (i : Nat) (phase : Phase), s.writers[i]? = some phase ∧ phase.Exceeds n

/-- What holds at every moment: what was read of the counter is not more than it is now, and every view that
    was handed out is covered. -/
structure Sound (s : State V) : Prop where
  counted : ∀ (i n : Nat), s.writers[i]? = some (.counted n) → n ≤ s.counter
  label : ∀ (j : Nat) (r : Reader V) (n : Nat), s.readers[j]? = some r → r.label = some n → n ≤ s.counter
  held : ∀ (j : Nat) (r : Reader V) (n : Nat) (view : V), s.readers[j]? = some r → r.held = some (n, view) →
    n ≤ s.counter ∧ s.Covers n view

/-- A reader of a changed list of readers is the changed one or was there before. -/
theorem getElem?_set_cases {α : Type} {l : List α} {i j : Nat} {a b : α}
    (h : (l.set i a)[j]? = some b) : b = a ∨ l[j]? = some b := by
  by_cases hij : i = j
  · subst hij
    rw [List.getElem?_set_self'] at h
    cases hl : l[i]? with
    | none => simp [hl] at h
    | some c => exact .inl (by simpa [hl] using h.symm)
  · exact .inr (by rwa [List.getElem?_set_ne hij] at h)

/-- The writers that are not at their turn go on as before. -/
theorem State.Covers.advance {s s' : State V} {i n : Nat} {view : V} {before after : Phase}
    (h : s.Covers n view) (hi : s.writers[i]? = some before) (hwriters : s'.writers = s.writers.set i after)
    (hview : s'.view = s.view) (hcounter : s.counter ≤ s'.counter)
    (hturn : before.Exceeds n → n < s'.counter ∨ after.Exceeds n) : s'.Covers n view := by
  have hlt : i < s.writers.length := (List.getElem?_eq_some_iff.mp hi).1
  rcases h with hcurrent | hexpired | ⟨k, phase, hk, hexceeds⟩
  · exact .inl (hcurrent.trans hview.symm)
  · exact .inr (.inl (by omega))
  · by_cases hik : i = k
    · subst hik
      rw [hi] at hk
      cases hk
      rcases hturn hexceeds with hlt' | hafter
      · exact .inr (.inl hlt')
      · exact .inr (.inr ⟨i, after, by rw [hwriters, List.getElem?_set_self hlt], hafter⟩)
    · exact .inr (.inr ⟨k, phase, by rw [hwriters, List.getElem?_set_ne hik, hk], hexceeds⟩)

/-- Putting in a reader whose label is not ahead and whose view is covered keeps the state sound. -/
theorem Sound.setReader {s : State V} (h : Sound s) (j : Nat) {r : Reader V}
    (hlabel : ∀ n, r.label = some n → n ≤ s.counter)
    (hheld : ∀ n v, r.held = some (n, v) → n ≤ s.counter ∧ s.Covers n v) :
    Sound { s with readers := s.readers.set j r } := by
  refine ⟨h.counted, ?_, ?_⟩
  · intro k r' n hk hn
    rcases getElem?_set_cases hk with rfl | hk
    · exact hlabel n hn
    · exact h.label k r' n hk hn
  · intro k r' n v hk hr'
    rcases getElem?_set_cases hk with rfl | hk
    · exact hheld n v hr'
    · exact h.held k r' n v hk hr'

theorem Sound.step {s s' : State V} (h : Sound s) (hstep : Step s s') : Sound s' := by
  cases hstep with
  | change i view hi =>
      have hlt : i < s.writers.length := (List.getElem?_eq_some_iff.mp hi).1
      refine ⟨?_, h.label, ?_⟩
      · intro k n hk
        rcases getElem?_set_cases hk with heq | hk
        · cases heq
        · exact h.counted k n hk
      · intro j r n v hj hheld
        refine ⟨(h.held j r n v hj hheld).1, ?_⟩
        -- the writer itself is the one that will count up
        exact .inr (.inr ⟨i, .changed, List.getElem?_set_self hlt, trivial⟩)
  | count i hi =>
      -- the writer keeps covering what it covered, now by the counter that it read
      refine ⟨?_, h.label, ?_⟩
      · intro k n hk
        rcases getElem?_set_cases hk with heq | hk
        · cases heq
          exact Nat.le_refl _
        · exact h.counted k n hk
      · intro j r n v hj hheld
        obtain ⟨hle, hcovers⟩ := h.held j r n v hj hheld
        exact ⟨hle, hcovers.advance hi rfl rfl (Nat.le_refl _) fun _ => .inr hle⟩
  | bump i m hi hforward =>
      -- what the writer covered is older than the new counter
      refine ⟨?_, ?_, ?_⟩
      · intro k n hk
        rcases getElem?_set_cases hk with heq | hk
        · cases heq
        · exact Nat.le_trans (h.counted k n hk) hforward
      · intro j r n hj hn
        exact Nat.le_trans (h.label j r n hj hn) hforward
      · intro j r n v hj hheld
        obtain ⟨hle, hcovers⟩ := h.held j r n v hj hheld
        exact ⟨Nat.le_trans hle hforward,
          hcovers.advance hi rfl rfl hforward fun hm => .inl (Nat.lt_succ_of_le hm)⟩
  | label j r hj =>
      apply h.setReader j
      · rintro n ⟨⟩
        exact Nat.le_refl _
      · intro n v hheld
        exact h.held j r n v hj hheld
  | forget j r hj =>
      apply h.setReader j
      · rintro n ⟨⟩
      · intro n v hheld
        exact h.held j r n v hj hheld
  | receive j m r hj hm =>
      apply h.setReader j
      · rintro n ⟨⟩
      · -- the view just received is the current one
        rintro n v ⟨⟩
        exact ⟨h.label j r m hj hm, .inl rfl⟩

/-- Nothing has happened yet. -/
def State.initial (view : V) (counter writers readers : Nat) : State V :=
  ⟨view, counter, List.replicate writers .quiet, List.replicate readers ⟨none, none⟩⟩

theorem sound_initial (view : V) (counter writers readers : Nat) :
    Sound (State.initial view counter writers readers) := by
  have hreader {j : Nat} {r : Reader V}
      (hj : (List.replicate readers (⟨none, none⟩ : Reader V))[j]? = some r) : r = ⟨none, none⟩ :=
    List.eq_of_mem_replicate (List.mem_of_getElem? hj)
  refine ⟨?_, ?_, ?_⟩
  · intro i n hi
    cases List.eq_of_mem_replicate (List.mem_of_getElem? hi)
  · intro j r n hj hn
    rw [hreader hj] at hn
    cases hn
  · intro j r n v hj hheld
    rw [hreader hj] at hheld
    cases hheld

theorem sound_of_reachable {s s' : State V} (h : Sound s) (hsteps : Relation.ReflTransGen Step s s') :
    Sound s' := by
  induction hsteps with
  | refl => exact h
  | tail _ hstep ih => exact ih.step hstep

/-- **No stale reader.** When every writer has announced its change, a view whose label is the counter is the
    current one. -/
theorem current_of_settled {s : State V} (h : Sound s) (hsettled : ∀ phase ∈ s.writers, phase = .quiet)
    {j n : Nat} {r : Reader V} {view : V} (hj : s.readers[j]? = some r) (hheld : r.held = some (n, view))
    (hlabel : n = s.counter) : view = s.view := by
  rcases (h.held j r n view hj hheld).2 with hcurrent | hexpired | ⟨i, phase, hi, hexceeds⟩
  · exact hcurrent
  · omega
  · rw [hsettled phase (List.mem_of_getElem? hi)] at hexceeds
    exact hexceeds.elim

/-! ## Relating the writers of a program to these -/

/-- Putting in what is there changes nothing. -/
theorem set_of_getElem? {α : Type} {l : List α} {i : Nat} {a : α} (h : l[i]? = some a) : l.set i a = l := by
  obtain ⟨hlt, heq⟩ := List.getElem?_eq_some_iff.mp h
  rw [← heq, List.set_getElem_self]

/-- Two related lists stay related when related elements are put in at one place. -/
theorem forall₂_set {α β : Type} {R : α → β → Prop} {l : List α} {m : List β} (h : List.Forall₂ R l m)
    (i : Nat) {a : α} {b : β} (hab : R a b) : List.Forall₂ R (l.set i a) (m.set i b) := by
  induction h generalizing i with
  | nil => exact .nil
  | cons hxy htail ih =>
      cases i with
      | zero => exact .cons hab htail
      | succ i => exact .cons hxy (ih i)

/-- Every element of the second list is related to the one at its place in the first. -/
theorem forall₂_getElem? {α β : Type} {R : α → β → Prop} {l : List α} {m : List β} (h : List.Forall₂ R l m)
    {i : Nat} {b : β} (hi : m[i]? = some b) : ∃ a, l[i]? = some a ∧ R a b := by
  induction h generalizing i with
  | nil => simp at hi
  | cons hxy htail ih =>
      cases i with
      | zero =>
          cases hi
          exact ⟨_, rfl, hxy⟩
      | succ i => exact ih hi

end Logic.Versioned
