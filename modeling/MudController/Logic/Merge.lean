import Mathlib.Data.List.Basic

/-!
# `Logic.Merge` — lists that override each other by key

`mergeBy key a b` keeps of `a` what `b` has no key of, and appends `b`. Keys may repeat on either side. Merging
is associative, with the empty list as its unit, and merging the same list twice is merging it once.
-/

namespace Logic

variable {α κ : Type} [DecidableEq κ] {key : α → κ}

variable (key) in
/-- The elements of `a` whose key no element of `b` has, and `b` behind them. -/
def mergeBy (a b : List α) : List α := (a.filter fun x => key x ∉ b.map key) ++ b

theorem mem_mergeBy {a b : List α} {x : α} :
    x ∈ mergeBy key a b ↔ (x ∈ a ∧ key x ∉ b.map key) ∨ x ∈ b := by
  simp [mergeBy, List.mem_append, List.mem_filter]

@[simp] theorem mergeBy_nil (a : List α) : mergeBy key a [] = a := by simp [mergeBy]

@[simp] theorem nil_mergeBy (b : List α) : mergeBy key [] b = b := rfl

/-- The keys of a merge are those of its parts. -/
theorem mem_map_mergeBy {a b : List α} {k : κ} :
    k ∈ (mergeBy key a b).map key ↔ k ∈ a.map key ∨ k ∈ b.map key := by
  simp only [List.mem_map, mem_mergeBy]
  constructor
  · rintro ⟨x, ⟨hx, -⟩ | hx, rfl⟩
    · exact .inl ⟨x, hx, rfl⟩
    · exact .inr ⟨x, hx, rfl⟩
  · rintro (⟨x, hx, rfl⟩ | ⟨x, hx, rfl⟩)
    · by_cases hb : ∃ y ∈ b, key y = key x
      · obtain ⟨y, hy, hkey⟩ := hb
        exact ⟨y, .inr hy, hkey⟩
      · exact ⟨x, .inl ⟨hx, hb⟩, rfl⟩
    · exact ⟨x, .inr hx, rfl⟩

/-- **Associativity**: what `b` overrides, and what `c` does of either. -/
theorem mergeBy_assoc (a b c : List α) :
    mergeBy key (mergeBy key a b) c = mergeBy key a (mergeBy key b c) := by
  have hkeep : ((a.filter fun x => key x ∉ b.map key).filter fun x => key x ∉ c.map key) =
      a.filter fun x => key x ∉ (mergeBy key b c).map key := by
    rw [List.filter_filter]
    refine List.filter_congr fun x _ => ?_
    rw [← Bool.decide_and, decide_eq_decide, mem_map_mergeBy, not_or]
    exact and_comm
  calc mergeBy key (mergeBy key a b) c
      = ((a.filter fun x => key x ∉ b.map key).filter fun x => key x ∉ c.map key) ++
          ((b.filter fun x => key x ∉ c.map key) ++ c) := by
        unfold mergeBy
        rw [List.filter_append, List.append_assoc]
    _ = mergeBy key a (mergeBy key b c) := by
        rw [hkeep]
        rfl

/-- What a merge has under the keys of `b` is `b`, repetitions included. -/
theorem filter_mergeBy_keys (a b : List α) :
    ((mergeBy key a b).filter fun x => key x ∈ b.map key) = b := by
  have hnone : ((a.filter fun x => key x ∉ b.map key).filter fun x => key x ∈ b.map key) = [] := by
    rw [List.filter_filter, List.filter_eq_nil_iff]
    intro x _
    simp
  have hall : (b.filter fun x => key x ∈ b.map key) = b :=
    List.filter_eq_self.mpr fun x hx => decide_eq_true (List.mem_map_of_mem hx)
  unfold mergeBy
  rw [List.filter_append, hnone, List.nil_append, hall]

/-- A list that every key of `a` is in overrides all of it. -/
theorem mergeBy_eq_right {a b : List α} (h : ∀ x ∈ a, key x ∈ b.map key) : mergeBy key a b = b := by
  have hnone : (a.filter fun x => key x ∉ b.map key) = [] :=
    List.filter_eq_nil_iff.mpr fun x hx => by simpa using h x hx
  unfold mergeBy
  rw [hnone, List.nil_append]

/-- Merging the same list once more changes nothing. -/
theorem mergeBy_mergeBy_self (a b : List α) : mergeBy key (mergeBy key a b) b = mergeBy key a b := by
  rw [mergeBy_assoc, mergeBy_eq_right fun x hx => List.mem_map_of_mem hx]

/-- A kind of elements that `b` has none of, and no key of, stays as it is in `a`. -/
theorem filter_mergeBy_of_none {a b : List α} {p : α → Bool} (hb : ∀ x ∈ b, p x = false)
    (ha : ∀ x ∈ a, p x = true → key x ∉ b.map key) : (mergeBy key a b).filter p = a.filter p := by
  have hnone : b.filter p = [] := List.filter_eq_nil_iff.mpr fun x hx => by simp [hb x hx]
  unfold mergeBy
  rw [List.filter_append, hnone, List.append_nil, List.filter_filter]
  refine List.filter_congr fun x hx => ?_
  cases hp : p x with
  | false => rfl
  | true => exact decide_eq_true (ha x hx hp)

end Logic
