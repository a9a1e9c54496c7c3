import Mathlib.Algebra.Group.Nat.Defs

/-!
# `Logic.Text` — values kept as text

A store that keeps values in text columns writes `toText v` and reads back `parse`. `TextForm` is such a
pair together with its one law: what was written parses back. Instances for strings, booleans and
64-bit unsigned numbers follow the usual `to_string`/`from_str` conventions: a number is read from a
non-empty run of decimal digits, an optional leading `+` and leading zeros allowed, if it is in range.
-/

namespace Logic

/-- A text form of `α`: printing, reading, and that reading undoes printing. -/
class TextForm (α : Type) where
  toText : α → String
  parse : String → Option α
  parse_toText : ∀ a, parse (toText a) = some a

export TextForm (toText parse)

variable {α : Type} [TextForm α]

@[simp] theorem parse_toText (a : α) : parse (toText a) = some a := TextForm.parse_toText a

theorem toText_injective {a b : α} (h : toText a = toText b) : a = b := by
  have hp : (some a : Option α) = some b := by
    rw [← parse_toText a, ← parse_toText b, h]
  exact Option.some.inj hp

instance : TextForm String where
  toText s := s
  parse s := some s
  parse_toText _ := rfl

instance : TextForm Bool where
  toText b := if b then "true" else "false"
  parse s := if s = "true" then some true else if s = "false" then some false else none
  parse_toText b := by cases b <;> rfl

/-- The text form whose reader accepts what the printer writes and nothing else. -/
@[reducible] def TextForm.canonical {α : Type} (print : α → List Char) (read : List Char → α)
    (read_print : ∀ a, read (print a) = a) : TextForm α where
  toText a := String.ofList (print a)
  parse s := if print (read s.toList) = s.toList then some (read s.toList) else none
  parse_toText a := by rw [String.toList_ofList, read_print, if_pos rfl]

/-! ## Decimal numerals -/

/-- The value of a non-empty run of decimal digits. -/
def digits? (cs : List Char) : Option Nat :=
  if cs ≠ [] ∧ cs.all Char.isDigit then some (Nat.ofDigitChars 10 cs 0) else none

/-- The value of an unsigned numeral: digits after an optional `+`. -/
def unsigned? : List Char → Option Nat
  | '+' :: cs => digits? cs
  | cs => digits? cs

theorem digits?_toDigits (n : Nat) : digits? (Nat.toDigits 10 n) = some n := by
  have hall : (Nat.toDigits 10 n).all Char.isDigit = true := by
    rw [List.all_eq_true]
    intro c hc
    exact Nat.isDigit_of_mem_toDigits (by decide) (by decide) hc
  unfold digits?
  rw [if_pos ⟨Nat.toDigits_ne_nil, hall⟩, Nat.ofDigitChars_ten_toDigits]

/-- Different numbers have different numerals. -/
theorem toString_nat_injective {m n : Nat} (h : toString m = toString n) : m = n := by
  have hdigits : Nat.toDigits 10 m = Nat.toDigits 10 n := by
    rw [← Nat.toList_repr, ← Nat.toList_repr]
    exact congrArg String.toList h
  have hvalue := digits?_toDigits m
  rw [hdigits, digits?_toDigits] at hvalue
  exact (Option.some.inj hvalue).symm

/-- A numeral starts with a digit. -/
theorem isDigit_of_toString_eq_cons {n : Nat} {c : Char} {cs : List Char} (h : (toString n).toList = c :: cs) :
    c.isDigit = true := by
  have hdigits : Nat.toDigits 10 n = c :: cs := (Nat.toList_repr).symm.trans h
  exact Nat.isDigit_of_mem_toDigits (by decide) (by decide) (hdigits ▸ List.mem_cons_self)

/-- A numeral of digits does not start with a sign. -/
theorem unsigned?_of_digits {cs : List Char} {n : Nat} (h : digits? cs = some n) :
    unsigned? cs = some n := by
  unfold unsigned?
  split
  · next rest =>
      have hsign : digits? ('+' :: rest) = none := by
        unfold digits?
        rw [if_neg]
        rintro ⟨_, hall⟩
        simp at hall
      rw [hsign] at h
      exact absurd h (by simp)
  · exact h

instance : TextForm UInt64 where
  toText n := n.toNat.repr
  parse s := (unsigned? s.toList).bind fun n => if n < 2 ^ 64 then some (UInt64.ofNat n) else none
  parse_toText n := by
    rw [Nat.toList_repr, unsigned?_of_digits (digits?_toDigits n.toNat), Option.bind_some,
      if_pos n.toNat_lt, UInt64.ofNat_toNat]

/-- A signed numeral: digits, after a minus sign for a negative number. -/
def signedText (n : Int) : String :=
  String.ofList (if 0 ≤ n then Nat.toDigits 10 n.natAbs else '-' :: Nat.toDigits 10 n.natAbs)

/-- The value of a signed numeral. -/
def signed? (s : String) : Option Int :=
  match s.toList with
  | '-' :: cs => (digits? cs).map fun (n : Nat) => -(n : Int)
  | cs => (unsigned? cs).map Int.ofNat

theorem isDigit_of_mem_signedText {n : Int} {c : Char} (h : c ∈ (signedText n).toList) :
    c = '-' ∨ c.isDigit = true := by
  unfold signedText at h
  rw [String.toList_ofList] at h
  split at h
  · exact .inr (Nat.isDigit_of_mem_toDigits (by decide) (by decide) h)
  · rcases List.mem_cons.mp h with rfl | h
    · exact .inl rfl
    · exact .inr (Nat.isDigit_of_mem_toDigits (by decide) (by decide) h)

theorem signed?_signedText (n : Int) : signed? (signedText n) = some n := by
  unfold signed? signedText
  rw [String.toList_ofList]
  by_cases h : 0 ≤ n
  · rw [if_pos h]
    split
    · next cs hcs =>
      -- a numeral of digits does not start with a sign
      have hsign : '-' ∈ Nat.toDigits 10 n.natAbs := hcs ▸ List.mem_cons_self
      have hdigit : '-'.isDigit = true := Nat.isDigit_of_mem_toDigits (by decide) (by decide) hsign
      exact absurd hdigit (by decide)
    · rw [unsigned?_of_digits (digits?_toDigits n.natAbs), Option.map_some]
      exact congrArg some (Int.natAbs_of_nonneg h)
  · rw [if_neg h]
    show (digits? (Nat.toDigits 10 n.natAbs)).map _ = _
    rw [digits?_toDigits, Option.map_some]
    exact congrArg some (by omega)

/-! ## Fixed-width numerals and separated groups -/

/-- The `k` lowest digits of `n` in base `b`, the highest first. -/
def places (b : Nat) : Nat → Nat → List Nat
  | 0, _ => []
  | k + 1, n => places b k (n / b) ++ [n % b]

/-- The number that digits denote in base `b`. -/
def ofPlaces (b : Nat) (ds : List Nat) : Nat := ds.foldl (fun n d => b * n + d) 0

theorem ofPlaces_places {b k n : Nat} (h : n < b ^ k) : ofPlaces b (places b k n) = n := by
  induction k generalizing n with
  | zero =>
      have hn : n = 0 := by simpa using h
      subst hn
      rfl
  | succ k ih =>
      have hdiv : n / b < b ^ k := Nat.div_lt_of_lt_mul (by rwa [Nat.pow_succ'] at h)
      have hstep : ofPlaces b (places b k (n / b) ++ [n % b]) =
          b * ofPlaces b (places b k (n / b)) + n % b := by
        simp [ofPlaces, List.foldl_append]
      rw [places, hstep, ih hdiv, Nat.div_add_mod]

theorem lt_of_mem_places {b k n d : Nat} (hb : 0 < b) (h : d ∈ places b k n) : d < b := by
  induction k generalizing n with
  | zero => cases h
  | succ k ih =>
      rcases List.mem_append.mp h with h | h
      · exact ih h
      · rw [List.mem_singleton.mp h]
        exact Nat.mod_lt _ hb

@[simp] theorem length_places (b k n : Nat) : (places b k n).length = k := by
  induction k generalizing n with
  | zero => rfl
  | succ k ih => simp [places, ih]

/-- Groups printed one after another, with a separator between them. -/
def printGroups (sep : Char) (print : Nat → List Char) (gs : List Nat) : List Char :=
  [sep].intercalate (gs.map print)

/-- The groups between the separators. -/
def readGroups (sep : Char) (read : List Char → Nat) (cs : List Char) : List Nat :=
  (cs.splitOn sep).map read

theorem readGroups_printGroups {sep : Char} {print : Nat → List Char} {read : List Char → Nat}
    {gs : List Nat} (hne : gs ≠ []) (hsep : ∀ g ∈ gs, sep ∉ print g)
    (hread : ∀ g ∈ gs, read (print g) = g) :
    readGroups sep read (printGroups sep print gs) = gs := by
  unfold readGroups printGroups
  rw [List.splitOn_intercalate sep, List.map_map]
  · exact (List.map_congr_left hread).trans (List.map_id gs)
  · intro l hl
    obtain ⟨g, hg, rfl⟩ := List.mem_map.mp hl
    exact hsep g hg
  · simpa using hne

example : parse "+007" = some (7 : UInt64) := by decide

end Logic
