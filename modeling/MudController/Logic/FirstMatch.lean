import Mathlib.Data.List.Basic

/-!
# `Logic.FirstMatch` — ordered rules of which the first applicable one decides

A rule list is read by `List.findSome?`: each entry either decides (`some v`) or is silent (`none`), and
the first entry that decides wins. The two rules below compare such lists: a compiler that turns entries
into entries of another kind (`findSome?_compile`), and a second reading of the same entries that decides
more often (`findSome?_of_widened`).
-/

namespace Logic

variable {α β γ : Type}

/-- **Compiling entry by entry.** A compiler may number the entries and drop some; if what it makes of
    each entry decides as the entry does, the compiled list decides as the list does. -/
theorem findSome?_compile {source : α → Option γ} {target : β → Option γ} {compile : α × Nat → Option β}
    (l : List α) (i : Nat)
    (hexact : ∀ a ∈ l, ∀ k, (compile (a, k)).bind target = source a) :
    ((l.zipIdx i).filterMap compile).findSome? target = l.findSome? source := by
  induction l generalizing i with
  | nil => rfl
  | cons a l ih =>
      have hhead := hexact a List.mem_cons_self i
      have htail := ih (i + 1) fun b hb => hexact b (List.mem_cons_of_mem a hb)
      rw [List.zipIdx_cons, List.filterMap_cons, List.findSome?_cons]
      cases hc : compile (a, i) with
      | none =>
          rw [hc, Option.bind_none] at hhead
          rw [← hhead]
          exact htail
      | some b =>
          rw [hc, Option.bind_some] at hhead
          rw [List.findSome?_cons, hhead, htail]

/-- Readings that agree on the entries of a list decide it alike. -/
theorem findSome?_agree {f g : α → Option γ} {l : List α} (h : ∀ a ∈ l, f a = g a) :
    l.findSome? f = l.findSome? g := by
  induction l with
  | nil => rfl
  | cons a l ih =>
      rw [List.findSome?_cons, List.findSome?_cons, h a List.mem_cons_self,
        ih fun b hb => h b (List.mem_cons_of_mem a hb)]

/-- Lists whose entries decide alike, one by one, decide alike. -/
theorem findSome?_forall₂ {f : α → Option γ} {g : β → Option γ} {l : List α} {l' : List β}
    (h : List.Forall₂ (fun a b => f a = g b) l l') : l.findSome? f = l'.findSome? g := by
  induction h with
  | nil => rfl
  | cons hab _ ih => rw [List.findSome?_cons, List.findSome?_cons, hab, ih]

/-- **Widening without disagreement.** If the entries that decide `v` still do so under a second reading,
    and the entries that are silent stay silent or decide `v` there, then a list that decides `v` keeps
    deciding `v`. -/
theorem findSome?_of_widened {narrow wide : α → Option γ} {v : γ} {l : List α}
    (hdecides : ∀ a ∈ l, narrow a = some v → wide a = some v)
    (hsilent : ∀ a ∈ l, narrow a = none → wide a = none ∨ wide a = some v)
    (h : l.findSome? narrow = some v) : l.findSome? wide = some v := by
  induction l with
  | nil => exact h
  | cons a l ih =>
      have htail := ih (fun b hb => hdecides b (List.mem_cons_of_mem a hb))
        (fun b hb => hsilent b (List.mem_cons_of_mem a hb))
      rw [List.findSome?_cons] at h ⊢
      cases hn : narrow a with
      | none =>
          rw [hn] at h
          rcases hsilent a List.mem_cons_self hn with hw | hw
          · rw [hw]
            exact htail h
          · rw [hw]
      | some u =>
          rw [hn] at h
          cases h
          rw [hdecides a List.mem_cons_self hn]

end Logic
