import MudController.Logic.Text

/-!
# `Logic.Separated` — lists kept in one text

A store that keeps a list of texts in one column joins them with a separator, and splits the column when it
reads it back. The split of a text has at least one part, so the empty list does not survive, and a part
that holds the separator comes back as several (`splitText_joinText`).
-/

namespace Logic

/-- The parts of a text between the separators. -/
def splitText (sep : Char) (s : String) : List String := (s.toList.splitOn sep).map String.ofList

/-- The parts, one after another, with a separator between them. -/
def joinText (sep : Char) (parts : List String) : String :=
  String.ofList ([sep].intercalate (parts.map String.toList))

/-- The joined parts, or nothing if there are none: an SQL aggregate that joins texts. -/
def groupConcat (sep : Char) (parts : List String) : Option String :=
  if parts = [] then none else some (joinText sep parts)

variable {sep : Char}

theorem splitText_ne_nil (s : String) : splitText sep s ≠ [] := by simp [splitText]

/-- A text without a separator is its own only part. -/
theorem splitText_of_not_mem {s : String} (h : sep ∉ s.toList) : splitText sep s = [s] := by
  simp [splitText, List.splitOn_eq_singleton h]

/-- No part holds a separator. -/
theorem not_mem_of_mem_splitText {s p : String} (h : p ∈ splitText sep s) : sep ∉ p.toList := by
  obtain ⟨cs, hcs, rfl⟩ := List.mem_map.mp h
  rw [String.toList_ofList]
  clear h
  generalize s.toList = l at hcs
  -- by induction on the text: a character starts a new part or extends the first one
  induction l generalizing cs with
  | nil => simp_all
  | cons c l ih =>
      rw [List.splitOn_cons_eq_if_modifyHead] at hcs
      split at hcs
      · rcases List.mem_cons.mp hcs with rfl | hcs
        · simp
        · exact ih cs hcs
      · next hc =>
        obtain ⟨d, ds, hd⟩ := List.exists_cons_of_ne_nil (List.splitOn_ne_nil sep l)
        rw [hd, List.modifyHead_cons] at hcs
        rcases List.mem_cons.mp hcs with rfl | hcs
        · intro hmem
          rcases List.mem_cons.mp hmem with he | hmem
          · exact hc (by simp [he])
          · exact ih d (by simp [hd]) hmem
        · exact ih cs (by simp [hd, hcs])

/-- **Splitting what was joined** splits every part. -/
theorem splitText_joinText {parts : List String} (h : parts ≠ []) :
    splitText sep (joinText sep parts) = parts.flatMap (splitText sep) := by
  induction parts with
  | nil => exact absurd rfl h
  | cons p parts ih =>
      cases parts with
      | nil => simp [splitText, joinText]
      | cons q rest =>
          have htail := ih (List.cons_ne_nil q rest)
          unfold splitText joinText at htail ⊢
          rw [String.toList_ofList] at htail ⊢
          have hcons : [sep].intercalate ((p :: q :: rest).map String.toList) =
              p.toList ++ sep :: [sep].intercalate ((q :: rest).map String.toList) := by
            simp [List.intercalate_cons_cons]
          rw [hcons, List.splitOn_append_cons_self, List.map_append, htail]
          rfl

/-- Parts that hold no separator survive. -/
theorem splitText_joinText_of_not_mem {parts : List String} (h : parts ≠ [])
    (hsep : ∀ p ∈ parts, sep ∉ p.toList) : splitText sep (joinText sep parts) = parts := by
  rw [splitText_joinText h]
  clear h
  induction parts with
  | nil => rfl
  | cons p parts ih =>
      rw [List.flatMap_cons, splitText_of_not_mem (hsep p List.mem_cons_self),
        ih fun q hq => hsep q (List.mem_cons_of_mem p hq)]
      rfl

/-- The parts of an aggregate; no rows read as one empty text. -/
theorem splitText_groupConcat (parts : List String) :
    splitText sep ((groupConcat sep parts).getD "") =
      if parts = [] then [""] else parts.flatMap (splitText sep) := by
  unfold groupConcat
  by_cases h : parts = []
  · rw [if_pos h, if_pos h]
    rfl
  · rw [if_neg h, if_neg h, Option.getD_some, splitText_joinText h]

end Logic
