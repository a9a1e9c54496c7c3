import Mathlib.Data.List.Forall2
import MudController.Logic.Prog

/-!
# `Logic.Fallible` — loops of steps that may fail

A loop that computes something of each element and pushes it onto a list is `mapM` (`forIn_push`); a loop
that is left at the first element with a property is a lookup (`forIn_first`). A `mapM` succeeds exactly if
each of its steps does (`mapM_isOk_iff`), and then its result lists theirs (`mapM_ok_iff`).
-/

namespace Logic

section Loops

variable {m : Type → Type} [Monad m] [LawfulMonad m] {α β σ : Type}

/-- **A loop that pushes.** -/
theorem forIn_push (f : α → m β) (as : List α) (acc : List β) :
    (forIn as acc fun a acc => do
      let b ← f a
      pure (.yield (acc ++ [b]))) = (acc ++ ·) <$> as.mapM f := by
  induction as generalizing acc with
  | nil => simp
  | cons a as ih =>
      rw [List.forIn_cons, List.mapM_cons, bind_assoc, map_bind]
      refine congrArg (f a >>= ·) (funext fun b => ?_)
      rw [pure_bind]
      refine (ih (acc ++ [b])).trans ?_
      simp only [bind_pure_comp, Functor.map_map, List.append_assoc, List.singleton_append]

/-- **A loop that breaks** at the first element with the property. -/
theorem forIn_first (p : α → Prop) [DecidablePred p] (g : α → σ → m σ) (as : List α) (s : σ) :
    (forIn as s fun a s =>
      if p a then do
        let s ← g a s
        pure (.done s)
      else pure (.yield s)) = ((as.find? p).map fun a => g a s).getD (pure s) := by
  induction as with
  | nil => rfl
  | cons a as ih =>
      rw [List.forIn_cons]
      by_cases h : p a
      · simp [h]
      · simpa [h] using ih

end Loops

section Forall₂

variable {α β : Type} {R : α → β → Prop} {as : List α} {bs : List β}

/-- Lists that are related element by element: every element on the left has a partner. -/
theorem exists_right_of_mem (h : List.Forall₂ R as bs) {a : α} (ha : a ∈ as) : ∃ b ∈ bs, R a b := by
  induction h with
  | nil => cases ha
  | cons hab _ ih =>
      rcases List.mem_cons.mp ha with rfl | ha
      · exact ⟨_, List.mem_cons_self, hab⟩
      · obtain ⟨b, hb, hr⟩ := ih ha
        exact ⟨b, List.mem_cons_of_mem _ hb, hr⟩

/-- Every element on the right has a partner. -/
theorem exists_left_of_mem (h : List.Forall₂ R as bs) {b : β} (hb : b ∈ bs) : ∃ a ∈ as, R a b :=
  exists_right_of_mem h.flip hb

/-- A partial map keeps, in order, the results of the elements that it is defined on. -/
theorem forall₂_filterMap {f : α → Option β} {p : α → Bool} (hf : ∀ a ∈ as, ∀ b, f a = some b → R a b)
    (hp : ∀ a, p a = (f a).isSome) : List.Forall₂ R (as.filter p) (as.filterMap f) := by
  induction as with
  | nil => exact .nil
  | cons a as ih =>
      obtain ⟨ha, has⟩ := List.forall_mem_cons.mp hf
      rw [List.filter_cons, List.filterMap_cons, hp]
      cases hfa : f a with
      | none => exact ih has
      | some b => exact .cons (ha b hfa) (ih has)

end Forall₂

section Except

variable {α β ε : Type} {f : α → Except ε β}

/-- A sequence of two steps succeeds exactly if the first does and the second does on its result. -/
theorem bind_isOk_iff {x : Except ε α} :
    (∃ b, x >>= f = .ok b) ↔ ∃ a, x = .ok a ∧ ∃ b, f a = .ok b := by
  constructor
  · rintro ⟨b, h⟩
    obtain ⟨a, ha, hb⟩ := exists_of_bind_ok h
    exact ⟨a, ha, b, hb⟩
  · rintro ⟨a, rfl, b, hb⟩
    exact ⟨b, hb⟩

/-- The result of a `mapM` lists the results of its steps. -/
theorem mapM_ok_iff {as : List α} {bs : List β} :
    as.mapM f = .ok bs ↔ List.Forall₂ (fun a b => f a = .ok b) as bs := by
  induction as generalizing bs with
  | nil =>
      rw [List.mapM_nil, List.forall₂_nil_left_iff]
      exact ⟨fun h => (Except.ok.inj h).symm, fun h => h ▸ rfl⟩
  | cons a as ih =>
      rw [List.mapM_cons, List.forall₂_cons_left_iff]
      constructor
      · intro h
        obtain ⟨b, hb, h⟩ := exists_of_bind_ok h
        obtain ⟨bs', hbs, h⟩ := exists_of_bind_ok h
        cases h
        exact ⟨b, bs', hb, ih.mp hbs, rfl⟩
      · rintro ⟨b, bs', hb, hbs, rfl⟩
        rw [hb, ih.mpr hbs]
        rfl

/-- The result of a `mapM` has at each place the result of the step at that place. -/
theorem mapM_getElem? {as : List α} {bs : List β} (h : as.mapM f = .ok bs) {i : Nat} {a : α}
    (ha : as[i]? = some a) : ∃ b, bs[i]? = some b ∧ f a = .ok b := by
  have hsteps := mapM_ok_iff.mp h
  clear h
  induction hsteps generalizing i with
  | nil => simp at ha
  | @cons a' b' _ _ hab _ ih =>
      cases i with
      | zero =>
          cases ha
          exact ⟨b', rfl, hab⟩
      | succ i => exact ih ha

/-- A `mapM` succeeds exactly if each of its steps does. -/
theorem mapM_isOk_iff {as : List α} : (∃ bs, as.mapM f = .ok bs) ↔ ∀ a ∈ as, ∃ b, f a = .ok b := by
  induction as with
  | nil => exact iff_of_true ⟨[], rfl⟩ fun _ ha => nomatch ha
  | cons a as ih =>
      rw [List.forall_mem_cons, ← ih, List.mapM_cons]
      constructor
      · rintro ⟨bs, h⟩
        obtain ⟨b, hb, h⟩ := exists_of_bind_ok h
        obtain ⟨bs', hbs, _⟩ := exists_of_bind_ok h
        exact ⟨⟨b, hb⟩, bs', hbs⟩
      · rintro ⟨⟨b, hb⟩, bs, hbs⟩
        rw [hb, hbs]
        exact ⟨b :: bs, rfl⟩

/-- Steps that agree on every element of a list are the same loop over it. -/
theorem mapM_congr_mem {g : α → Except ε β} {as : List α} (h : ∀ a ∈ as, f a = g a) :
    as.mapM f = as.mapM g := by
  induction as with
  | nil => rfl
  | cons a as ih =>
      rw [List.mapM_cons, List.mapM_cons, h a List.mem_cons_self, ih fun b hb => h b (List.mem_cons_of_mem a hb)]

end Except

end Logic
