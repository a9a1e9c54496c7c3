import Mathlib.Data.Prod.Lex
import Mathlib.Order.Bounds.Basic

/-!
# `Logic.Calendar` — dates without a year

The proleptic Gregorian calendar of the years `first` to `last`, and the question which date a month and a day
without a year stand for: the latest of the dates in the current year and the year before that are not after
today (`candidates`). A day that some year has and another one has not is a 29 February (`leapDay_of_only`).
-/

namespace Logic

/-- A leap year. -/
def IsLeap (year : Int) : Prop := 4 ∣ year ∧ (¬100 ∣ year ∨ 400 ∣ year)

instance (year : Int) : Decidable (IsLeap year) := inferInstanceAs (Decidable (_ ∧ _))

def daysInMonth (year : Int) : Nat → Nat
  | 2 => if IsLeap year then 29 else 28
  | 4 => 30
  | 6 => 30
  | 9 => 30
  | 11 => 30
  | 1 => 31
  | 3 => 31
  | 5 => 31
  | 7 => 31
  | 8 => 31
  | 10 => 31
  | 12 => 31
  | _ => 0

/-- The year has such a month and the month such a day. -/
def IsDate (year : Int) (month day : Nat) : Prop := 1 ≤ day ∧ day ≤ daysInMonth year month

instance (year : Int) (month day : Nat) : Decidable (IsDate year month day) :=
  inferInstanceAs (Decidable (_ ∧ _))

theorem not_isLeap_succ {year : Int} (h : IsLeap year) : ¬IsLeap (year + 1) := by
  unfold IsLeap at *
  omega

theorem daysInMonth_eq {year : Int} {month : Nat} (h : month ≠ 2) (year' : Int) :
    daysInMonth year month = daysInMonth year' month := by
  unfold daysInMonth
  split <;> first | rfl | exact absurd rfl h

theorem isDate_leapDay {year : Int} : IsDate year 2 29 ↔ IsLeap year := by
  by_cases h : IsLeap year <;> simp [IsDate, daysInMonth, h]

/-- Every day but one is in every year. -/
theorem leapDay_of_only {year year' : Int} {month day : Nat} (h : IsDate year month day)
    (hnot : ¬IsDate year' month day) : month = 2 ∧ day = 29 := by
  unfold IsDate at h hnot
  by_cases hmonth : month = 2
  · subst hmonth
    simp only [daysInMonth] at h hnot
    split at h <;> split at hnot <;> omega
  · rw [daysInMonth_eq hmonth year'] at h
    exact absurd h hnot

/-- The dates of the years `first` to `last`. -/
@[ext] structure DateIn (first last : Int) where
  year : Int
  month : Nat
  day : Nat
  isDate : IsDate year month day
  first_le : first ≤ year
  le_last : year ≤ last
  deriving DecidableEq

variable {first last : Int}

namespace DateIn

/-- Dates are compared by year, then by month, then by day. -/
def key (d : DateIn first last) : ℤ ×ₗ ℕ ×ₗ ℕ := toLex (d.year, toLex (d.month, d.day))

theorem key_injective : Function.Injective (key : DateIn first last → ℤ ×ₗ ℕ ×ₗ ℕ) := by
  intro a b h
  have hpair : (a.year, toLex (a.month, a.day)) = (b.year, toLex (b.month, b.day)) := toLex_inj.mp h
  have hrest : (a.month, a.day) = (b.month, b.day) := toLex_inj.mp (Prod.mk.inj hpair).2
  exact DateIn.ext (Prod.mk.inj hpair).1 (Prod.mk.inj hrest).1 (Prod.mk.inj hrest).2

instance : LinearOrder (DateIn first last) := LinearOrder.lift' key key_injective

theorem lt_of_year_lt {a b : DateIn first last} (h : a.year < b.year) : a < b :=
  Prod.Lex.toLex_lt_toLex.mpr (.inl h)

/-- The date with this year, month and day, if there is one. -/
def ofYmd (year : Int) (month day : Nat) : Option (DateIn first last) :=
  if h : IsDate year month day ∧ first ≤ year ∧ year ≤ last then
    some ⟨year, month, day, h.1, h.2.1, h.2.2⟩
  else none

theorem ofYmd_eq_some_iff {year : Int} {month day : Nat} {d : DateIn first last} :
    ofYmd year month day = some d ↔ d.year = year ∧ d.month = month ∧ d.day = day := by
  unfold ofYmd
  constructor
  · intro h
    split at h
    · cases h
      exact ⟨rfl, rfl, rfl⟩
    · cases h
  · rintro ⟨rfl, rfl, rfl⟩
    rw [dif_pos ⟨d.isDate, d.first_le, d.le_last⟩]

theorem ofYmd_eq_none_iff {year : Int} {month day : Nat} (hrange : first ≤ year ∧ year ≤ last) :
    (ofYmd year month day : Option (DateIn first last)) = none ↔ ¬IsDate year month day := by
  unfold ofYmd
  split
  · next h => simp [h.1]
  · next h => simpa using fun hdate => h ⟨hdate, hrange⟩

/-! ## The latest such day -/

/-- The dates that a month and a day may stand for: in the year of `today` or in the one before, and not after
    `today`. -/
def candidates (today : DateIn first last) (month day : Nat) : Set (DateIn first last) :=
  { d | (d.year = today.year ∨ d.year = today.year - 1) ∧ d.month = month ∧ d.day = day ∧ d ≤ today }

variable {today d : DateIn first last} {month day : Nat}

/-- A day of the current year is the latest, if it is not still to come. -/
theorem isGreatest_thisYear (hd : ofYmd today.year month day = some d) (hle : d ≤ today) :
    IsGreatest (candidates today month day) d := by
  obtain ⟨hyear, hmonth, hday⟩ := ofYmd_eq_some_iff.mp hd
  refine ⟨⟨.inl hyear, hmonth, hday, hle⟩, ?_⟩
  rintro d' ⟨hyear' | hyear', hmonth', hday', -⟩
  · exact le_of_eq (DateIn.ext (hyear'.trans hyear.symm) (hmonth'.trans hmonth.symm) (hday'.trans hday.symm))
  · exact le_of_lt (lt_of_year_lt (by omega))

/-- Otherwise it is the one of the year before. -/
theorem isGreatest_lastYear (hthis : ∀ d', ofYmd today.year month day = some d' → today < d') :
    IsGreatest (candidates today month day) d ↔ ofYmd (today.year - 1) month day = some d := by
  have hyearBefore {d' : DateIn first last} (h : d' ∈ candidates today month day) :
      d'.year = today.year - 1 := by
    obtain ⟨hyear | hyear, hmonth, hday, hle⟩ := h
    · exact absurd (hthis d' (ofYmd_eq_some_iff.mpr ⟨hyear, hmonth, hday⟩)) (not_lt.mpr hle)
    · exact hyear
  rw [ofYmd_eq_some_iff]
  constructor
  · rintro ⟨hmem, -⟩
    exact ⟨hyearBefore hmem, hmem.2.1, hmem.2.2.1⟩
  · rintro ⟨hyear, hmonth, hday⟩
    refine ⟨⟨.inr hyear, hmonth, hday, le_of_lt (lt_of_year_lt (by omega))⟩, ?_⟩
    intro d' hmem
    exact le_of_eq (DateIn.ext ((hyearBefore hmem).trans hyear.symm) (hmem.2.1.trans hmonth.symm)
      (hmem.2.2.1.trans hday.symm))

end DateIn

end Logic
