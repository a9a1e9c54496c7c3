import Mathlib.Data.List.Nodup

/-!
# `Logic.Rows` — tables as lists of rows with a key

`replaceRow` is an `UPDATE … WHERE key = …`, `upsertRow` an `INSERT … ON CONFLICT (key) DO UPDATE`. The
lemmas say what a later lookup by key finds, and what happens to a `UNIQUE` column: a column `f` with nulls
is unique when `(rows.filterMap f).Nodup`.
-/

namespace Logic

variable {α κ β : Type} [DecidableEq κ] {key : α → κ} {row : α} {l : List α}

/-- Replace the rows that have the key of `row`. -/
def replaceRow (key : α → κ) (row : α) (l : List α) : List α :=
  l.map fun a => if key a = key row then row else a

/-- Replace the rows that have the key of `row`, or append it if there are none. -/
def upsertRow (key : α → κ) (row : α) (l : List α) : List α :=
  if key row ∈ l.map key then replaceRow key row l else l ++ [row]

/-! ## Keys and lookups -/

@[simp] theorem map_key_replaceRow : (replaceRow key row l).map key = l.map key := by
  unfold replaceRow
  rw [List.map_map]
  refine List.map_congr_left fun a _ => ?_
  by_cases h : key a = key row
  · simp [h]
  · simp [h]

theorem replaceRow_of_not_mem (h : key row ∉ l.map key) : replaceRow key row l = l := by
  unfold replaceRow
  refine (List.map_congr_left fun a ha => ?_).trans (List.map_id l)
  have hne : key a ≠ key row := fun he => h (he ▸ List.mem_map_of_mem ha)
  exact if_neg hne

theorem mem_of_mem_replaceRow {a : α} (h : a ∈ replaceRow key row l) :
    a = row ∨ (a ∈ l ∧ key a ≠ key row) := by
  obtain ⟨b, hb, rfl⟩ := List.mem_map.mp h
  by_cases hk : key b = key row
  · exact .inl (if_pos hk)
  · rw [if_neg hk]
    exact .inr ⟨hb, hk⟩

theorem mem_replaceRow_self (h : key row ∈ l.map key) : row ∈ replaceRow key row l := by
  obtain ⟨b, hb, hk⟩ := List.mem_map.mp h
  exact List.mem_map.mpr ⟨b, hb, if_pos hk⟩

theorem mem_replaceRow_other {a : α} (ha : a ∈ l) (hk : key a ≠ key row) : a ∈ replaceRow key row l :=
  List.mem_map.mpr ⟨a, ha, if_neg hk⟩

/-- Where all rows satisfy `P`, they still do with one of them replaced exactly if the new row does. -/
theorem forall_mem_replaceRow_iff {P : α → Prop} (hmem : key row ∈ l.map key)
    (h : ∀ r ∈ l, P r) : (∀ r ∈ replaceRow key row l, P r) ↔ P row := by
  refine ⟨fun hall => hall row (mem_replaceRow_self hmem), fun hrow r hr => ?_⟩
  rcases mem_of_mem_replaceRow hr with rfl | ⟨hr, _⟩
  · exact hrow
  · exact h r hr

theorem mem_map_key_upsertRow {k : κ} : k ∈ (upsertRow key row l).map key ↔ k = key row ∨ k ∈ l.map key := by
  unfold upsertRow
  by_cases h : key row ∈ l.map key
  · rw [if_pos h, map_key_replaceRow]
    exact ⟨.inr, fun hk => hk.elim (fun he => he ▸ h) id⟩
  · rw [if_neg h, List.map_append, List.mem_append, or_comm]
    simp

theorem find?_replaceRow_self (h : key row ∈ l.map key) :
    (replaceRow key row l).find? (key · = key row) = some row := by
  induction l with
  | nil => cases h
  | cons a l ih =>
      by_cases ha : key a = key row
      · simp [replaceRow, ha]
      · have htail : key row ∈ l.map key := by
          rcases List.mem_cons.mp h with he | hm
          · exact absurd he.symm ha
          · exact hm
        simpa [replaceRow, ha] using ih htail

theorem find?_replaceRow_other {k : κ} (hk : k ≠ key row) :
    (replaceRow key row l).find? (key · = k) = l.find? (key · = k) := by
  induction l with
  | nil => rfl
  | cons a l ih =>
      have hrow : ¬ key row = k := fun he => hk he.symm
      by_cases ha : key a = key row
      · have hak : ¬ key a = k := fun he => hrow (ha ▸ he)
        simpa [replaceRow, ha, hrow] using ih
      · by_cases hak : key a = k
        · simp [replaceRow, hak, hk]
        · simpa [replaceRow, ha, hak] using ih

theorem find?_upsertRow_self : (upsertRow key row l).find? (key · = key row) = some row := by
  unfold upsertRow
  by_cases h : key row ∈ l.map key
  · rw [if_pos h]
    exact find?_replaceRow_self h
  · rw [if_neg h, List.find?_append]
    have hnone : l.find? (key · = key row) = none := by
      rw [List.find?_eq_none]
      intro a ha hk
      exact h (of_decide_eq_true hk ▸ List.mem_map_of_mem ha)
    simp [hnone]

theorem find?_upsertRow_other {k : κ} (hk : k ≠ key row) :
    (upsertRow key row l).find? (key · = k) = l.find? (key · = k) := by
  unfold upsertRow
  by_cases h : key row ∈ l.map key
  · rw [if_pos h]
    exact find?_replaceRow_other hk
  · rw [if_neg h, List.find?_append]
    have hrow : ¬ key row = k := fun he => hk he.symm
    simp [hrow]

/-- The rows of other keys stay as they are, in their order. -/
theorem filter_replaceRow_other :
    (replaceRow key row l).filter (key · ≠ key row) = l.filter (key · ≠ key row) := by
  induction l with
  | nil => rfl
  | cons a l ih =>
      have hcons : replaceRow key row (a :: l) =
          (if key a = key row then row else a) :: replaceRow key row l := rfl
      rw [hcons]
      by_cases h : key a = key row
      · rw [if_pos h, List.filter_cons_of_neg (by simp), List.filter_cons_of_neg (by simpa using h), ih]
      · rw [if_neg h, List.filter_cons_of_pos (by simpa using h), List.filter_cons_of_pos (by simpa using h), ih]

theorem filter_upsertRow_other :
    (upsertRow key row l).filter (key · ≠ key row) = l.filter (key · ≠ key row) := by
  unfold upsertRow
  by_cases h : key row ∈ l.map key
  · rw [if_pos h]
    exact filter_replaceRow_other
  · rw [if_neg h, List.filter_append]
    simp

/-- Under unique keys, a row is found by its key. -/
theorem find?_of_mem (h : (l.map key).Nodup) {a : α} (ha : a ∈ l) : l.find? (key · = key a) = some a := by
  cases hfind : l.find? (key · = key a) with
  | none => exact absurd (List.find?_eq_none.mp hfind a ha) (by simp)
  | some b =>
      have hkey : key b = key a := by simpa using List.find?_some hfind
      rw [List.inj_on_of_nodup_map h (List.mem_of_find?_eq_some hfind) ha hkey]

/-- Under unique keys, a row is all that its key selects. -/
theorem filter_of_mem (h : (l.map key).Nodup) {a : α} (ha : a ∈ l) : l.filter (key · = key a) = [a] := by
  induction l with
  | nil => cases ha
  | cons b l ih =>
      obtain ⟨hb, hl⟩ := List.nodup_cons.mp h
      rcases List.mem_cons.mp ha with rfl | ha
      · have hnone : l.filter (key · = key a) = [] := by
          refine List.filter_eq_nil_iff.mpr fun c hc => ?_
          simpa using fun he => hb (List.mem_map.mpr ⟨c, hc, he⟩)
        rw [List.filter_cons_of_pos (by simp), hnone]
      · have hne : key b ≠ key a := fun he => hb (List.mem_map.mpr ⟨a, ha, he.symm⟩)
        rw [List.filter_cons_of_neg (by simpa using hne), ih hl ha]

theorem nodup_map_key_upsertRow (h : (l.map key).Nodup) : ((upsertRow key row l).map key).Nodup := by
  unfold upsertRow
  by_cases hmem : key row ∈ l.map key
  · rw [if_pos hmem, map_key_replaceRow]
    exact h
  · rw [if_neg hmem, List.map_append]
    exact List.nodup_append'.mpr ⟨h, List.nodup_singleton _, by simpa using hmem⟩

/-- An appended row keeps keys unique exactly if its key is new. -/
theorem nodup_map_append {γ : Type} (f : α → γ) (row : α) (l : List α) :
    ((l ++ [row]).map f).Nodup ↔ (l.map f).Nodup ∧ f row ∉ l.map f := by
  rw [List.map_append, List.nodup_append']
  simp

/-- A number above all keys is no key. -/
theorem succ_not_mem {f : α → Int} {n : Int} (h : ∀ a ∈ l, f a ≤ n) : n + 1 ∉ l.map f := by
  intro hmem
  obtain ⟨a, ha, he⟩ := List.mem_map.mp hmem
  have hle := h a ha
  omega

/-- What holds of the rows and of one more holds of all of them. -/
theorem forall_mem_append {P : α → Prop} (h : ∀ a ∈ l, P a) (hrow : P row) : ∀ a ∈ l ++ [row], P a := by
  intro a ha
  rcases List.mem_append.mp ha with ha | ha
  · exact h a ha
  · rw [List.mem_singleton.mp ha]
    exact hrow

/-! ## Unique columns -/

/-- Two rows with the same value in a unique column are the same row. -/
theorem eq_of_nodup_filterMap {f : α → Option β} (h : (l.filterMap f).Nodup) {a b : α} {x : β}
    (ha : a ∈ l) (hb : b ∈ l) (hax : f a = some x) (hbx : f b = some x) : a = b := by
  induction l with
  | nil => cases ha
  | cons c l ih =>
      have htail : (l.filterMap f).Nodup :=
        h.sublist (List.Sublist.filterMap f (List.sublist_cons_self c l))
      have hhead : f c = some x → ∀ d ∈ l, f d ≠ some x := by
        intro hc d hd hdx
        rw [List.filterMap_cons, hc] at h
        exact (List.nodup_cons.mp h).1 (List.mem_filterMap.mpr ⟨d, hd, hdx⟩)
      rcases List.mem_cons.mp ha with hac | hal <;> rcases List.mem_cons.mp hb with hbc | hbl
      · rw [hac, hbc]
      · exact absurd hbx (hhead (hac ▸ hax) b hbl)
      · exact absurd hax (hhead (hbc ▸ hbx) a hal)
      · exact ih htail hal hbl

/-- Rows that keep their value or lose it leave a column unique. -/
theorem nodup_filterMap_map {f : α → Option β} {g : α → α} (hg : ∀ a ∈ l, f (g a) = f a ∨ f (g a) = none)
    (h : (l.filterMap f).Nodup) : ((l.map g).filterMap f).Nodup := by
  have hsub : ((l.map g).filterMap f).Sublist (l.filterMap f) := by
    clear h
    induction l with
    | nil => exact List.Sublist.slnil
    | cons a l ih =>
        have htail := ih fun b hb => hg b (List.mem_cons_of_mem a hb)
        rw [List.map_cons, List.filterMap_cons, List.filterMap_cons]
        rcases hg a List.mem_cons_self with ha | ha
        · rw [ha]
          cases f a with
          | none => exact htail
          | some x => exact htail.cons_cons x
        · rw [ha]
          cases f a with
          | none => exact htail
          | some x => exact htail.cons x
  exact h.sublist hsub

/-- A replaced row keeps a column unique if no row with another key has its value. -/
theorem nodup_filterMap_replaceRow {f : α → Option β} (hkeys : (l.map key).Nodup)
    (h : (l.filterMap f).Nodup)
    (hrow : ∀ a ∈ l, key a ≠ key row → ∀ x, f a = some x → f row ≠ some x) :
    ((replaceRow key row l).filterMap f).Nodup := by
  induction l with
  | nil => exact h
  | cons a l ih =>
      have hkeys' : key a ∉ l.map key ∧ (l.map key).Nodup := List.nodup_cons.mp hkeys
      have htail : (l.filterMap f).Nodup :=
        h.sublist (List.Sublist.filterMap f (List.sublist_cons_self a l))
      have hcons : replaceRow key row (a :: l) =
          (if key a = key row then row else a) :: replaceRow key row l := rfl
      rw [hcons, List.filterMap_cons]
      by_cases hk : key a = key row
      · rw [if_pos hk, replaceRow_of_not_mem (hk ▸ hkeys'.1)]
        cases hx : f row with
        | none => exact htail
        | some x =>
            refine List.nodup_cons.mpr ⟨fun hmem => ?_, htail⟩
            obtain ⟨b, hb, hbx⟩ := List.mem_filterMap.mp hmem
            have hne : key b ≠ key row := fun he =>
              hkeys'.1 (List.mem_map.mpr ⟨b, hb, he.trans hk.symm⟩)
            exact hrow b (List.mem_cons_of_mem a hb) hne x hbx hx
      · rw [if_neg hk]
        have hrec := ih hkeys'.2 htail fun b hb => hrow b (List.mem_cons_of_mem a hb)
        cases hx : f a with
        | none => exact hrec
        | some x =>
            refine List.nodup_cons.mpr ⟨fun hmem => ?_, hrec⟩
            obtain ⟨b, hb, hbx⟩ := List.mem_filterMap.mp hmem
            rcases mem_of_mem_replaceRow hb with rfl | ⟨hbl, _⟩
            · exact hrow a List.mem_cons_self hk x hx hbx
            · have hab := eq_of_nodup_filterMap h List.mem_cons_self (List.mem_cons_of_mem a hbl) hx hbx
              subst hab
              exact hkeys'.1 (List.mem_map_of_mem hbl)

/-- An appended row keeps a column unique if no row has its value. -/
theorem nodup_filterMap_append {f : α → Option β} (h : (l.filterMap f).Nodup)
    (hrow : ∀ a ∈ l, ∀ x, f a = some x → f row ≠ some x) : ((l ++ [row]).filterMap f).Nodup := by
  rw [List.filterMap_append]
  refine List.nodup_append'.mpr ⟨h, ?_, ?_⟩
  · cases hx : f row <;> simp [hx]
  · intro x hx hmem
    obtain ⟨a, ha, hax⟩ := List.mem_filterMap.mp hx
    obtain ⟨b, hb, hbx⟩ := List.mem_filterMap.mp hmem
    rw [List.mem_singleton.mp hb] at hbx
    exact hrow a ha x hax hbx

end Logic
