import MudController.Logic.Text

/-!
# `Logic.Base64` — octets as text, six bits to a character

The bits of some octets, read in groups of six from the highest bit of the first one on, with zeros behind the
last: each group is a character of an alphabet of 64 (`encode`, without padding). In the URL-safe alphabet the
last two characters are no letters or digits. They stand for the groups that begin with five ones, of which
there may be as many as there are whole groups (`countP_isMark_encode`).
-/

namespace Logic

namespace Base64

/-- The bit `k` of the octets, the highest bit of each octet first; behind the last one all bits are zero. -/
def bitAt (octets : List UInt8) (k : Nat) : Bool := (octets.getD (k / 8) 0).toNat.testBit (7 - k % 8)

/-- The group of six bits at `i`, as a number. -/
def sextet (octets : List UInt8) (i : Nat) : Nat :=
  ofPlaces 2 ((List.range 6).map fun j => (bitAt octets (6 * i + j)).toNat)

/-- The characters of all groups, the last of which may be filled up with zeros. -/
def encode (alphabet : Nat → Char) (octets : List UInt8) : List Char :=
  (List.range ((8 * octets.length + 5) / 6)).map fun i => alphabet (sextet octets i)

@[simp] theorem length_encode (alphabet : Nat → Char) (octets : List UInt8) :
    (encode alphabet octets).length = (8 * octets.length + 5) / 6 := by
  simp [encode]

theorem bitAt_of_le {octets : List UInt8} {k : Nat} (h : 8 * octets.length ≤ k) : bitAt octets k = false := by
  have hend : octets.length ≤ k / 8 := by omega
  unfold bitAt
  rw [List.getD_eq_getElem?_getD, List.getElem?_eq_none hend]
  exact Nat.zero_testBit _

theorem sextet_lt (octets : List UInt8) (i : Nat) : sextet octets i < 64 := by
  have hbits : ∀ b₀ b₁ b₂ b₃ b₄ b₅ : Bool,
      ofPlaces 2 [b₀.toNat, b₁.toNat, b₂.toNat, b₃.toNat, b₄.toNat, b₅.toNat] < 64 := by decide
  exact hbits _ _ _ _ _ _

/-! ## The URL-safe alphabet -/

/-- The alphabet that is safe in URLs and in file names. -/
def urlSafe (n : Nat) : Char :=
  if n < 26 then Char.ofNat ('A'.toNat + n)
  else if n < 52 then Char.ofNat ('a'.toNat + (n - 26))
  else if n < 62 then Char.ofNat ('0'.toNat + (n - 52))
  else if n = 62 then '-'
  else '_'

/-- One of its two characters that are no letters or digits. -/
def isMark (c : Char) : Bool := c = '-' || c = '_'

/-- The group at `i` begins with five ones. -/
def beginsWithOnes (octets : List UInt8) (i : Nat) : Bool := (List.range 5).all fun j => bitAt octets (6 * i + j)

/-- How many of the whole groups do. -/
def onesGroups (octets : List UInt8) : Nat := (List.range (8 * octets.length / 6)).countP (beginsWithOnes octets)

theorem isMark_urlSafe : ∀ n < 64, isMark (urlSafe n) = decide (62 ≤ n) := by decide

theorem le_sextet_iff (octets : List UInt8) (i : Nat) : 62 ≤ sextet octets i ↔ beginsWithOnes octets i = true := by
  have hbits : ∀ b₀ b₁ b₂ b₃ b₄ b₅ : Bool,
      62 ≤ ofPlaces 2 [b₀.toNat, b₁.toNat, b₂.toNat, b₃.toNat, b₄.toNat, b₅.toNat] ↔
        (b₀ && (b₁ && (b₂ && (b₃ && (b₄ && true))))) = true := by decide
  exact hbits _ _ _ _ _ _

theorem isMark_sextet (octets : List UInt8) (i : Nat) :
    isMark (urlSafe (sextet octets i)) = beginsWithOnes octets i := by
  rw [isMark_urlSafe _ (sextet_lt octets i), Bool.eq_iff_iff, decide_eq_true_iff, le_sextet_iff]

/-- A group with bits behind the last octet does not begin with five ones. -/
theorem beginsWithOnes_end {octets : List UInt8} {i : Nat} (h : 8 * octets.length / 6 ≤ i) :
    beginsWithOnes octets i = false := by
  -- both ends are even, so that such a group has at least two bits behind it
  have hfifth : bitAt octets (6 * i + 4) = false := bitAt_of_le (by omega)
  unfold beginsWithOnes
  rw [List.all_eq_false]
  exact ⟨4, by decide, by simp [hfifth]⟩

/-- **Marks in a text.** They are the groups that begin with five ones. -/
theorem countP_isMark_encode (octets : List UInt8) :
    (encode urlSafe octets).countP isMark = onesGroups octets := by
  have hgroups : (encode urlSafe octets).countP isMark =
      (List.range ((8 * octets.length + 5) / 6)).countP (beginsWithOnes octets) := by
    unfold encode
    rw [List.countP_map]
    exact List.countP_congr fun i _ => by simp [isMark_sextet]
  rw [hgroups]
  -- at most one group is not whole
  by_cases hwhole : (8 * octets.length + 5) / 6 = 8 * octets.length / 6
  · rw [hwhole]
    rfl
  · have hlast : (8 * octets.length + 5) / 6 = 8 * octets.length / 6 + 1 := by omega
    have hzero : beginsWithOnes octets (8 * octets.length / 6) = false := beginsWithOnes_end (Nat.le_refl _)
    rw [hlast, List.range_succ, List.countP_append, List.countP_singleton, hzero]
    rfl

example : encode urlSafe [0xff, 0xff, 0xfe] = ['_', '_', '_', '-'] := by decide

end Base64

end Logic
