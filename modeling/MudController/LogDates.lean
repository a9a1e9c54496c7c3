import MudController.Logic.Decoder
import MudController.Services.Log

/-!
# `LogDates` — which date the month and the day of a log line stand for

Log lines have no year. `ResolvesToLatest` says what one expects of `parse_log_line`: a date is found exactly
if the month is one of the twelve abbreviations and there is such a day in this year or the one before, not
after today, and it is the latest. The code does this with two exceptions (`resolvesToLatest_iff`): a text that
lies across two abbreviations of `MONTHS` counts as the month it starts in, and the 29 February of the year
before is not found, because the current year has no such day.
-/

namespace MudController

open Logic

/-- The abbreviations of the months. -/
def monthNames : List String :=
  ["Jan", "Feb", "Mar", "Apr", "May", "Jun", "Jul", "Aug", "Sep", "Oct", "Nov", "Dec"]

/-- The text is the abbreviation of this month. -/
def IsMonth (text : String) (month : Nat) : Prop := 1 ≤ month ∧ monthNames[month - 1]? = some text

/-- A line's month and day are resolved to the latest such date that is not after today, if there is one. -/
def ResolvesToLatest (today : NaiveDate) (monthText dayText : String) : Prop :=
  ∀ date, resolveDate today monthText dayText = .ok date ↔
    ∃ month day, IsMonth monthText month ∧ parseU32 dayText = some day ∧
      IsGreatest (DateIn.candidates today month day) date

/-- The day is the 29 February of the year before. -/
def LeapDayBefore (today : NaiveDate) (monthText dayText : String) : Prop :=
  monthText = "Feb" ∧ parseU32 dayText = some 29 ∧ IsLeap (today.year - 1)

/-- The current year has no such day, or it is still to come and the year before has none. -/
def NoSuchDay (today : NaiveDate) (month day : Nat) : Prop :=
  ∀ date : NaiveDate, DateIn.ofYmd today.year month day = some date →
    today < date ∧ (DateIn.ofYmd (today.year - 1) month day : Option NaiveDate) = none

/-- The text is none of the abbreviations, but lies across two of them. -/
def AcrossMonths (monthText : String) (month : Nat) : Prop :=
  ∃ start, findText months monthText = some start ∧ ¬3 ∣ start ∧ start / 3 + 1 = month

/-! ## The search in `MONTHS` -/

theorem found_at_start {pattern cs : List Char} (h : pattern.isPrefixOf cs = true) (start : Nat) :
    ∃ before after, cs = before ++ (pattern ++ after) ∧ start = start + (String.ofList before).utf8ByteSize := by
  obtain ⟨after, hafter⟩ := List.isPrefixOf_iff_prefix.mp h
  exact ⟨[], after, hafter.symm, rfl⟩

/-- What is found is there. -/
theorem findChars_spec {pattern cs : List Char} {start found : Nat}
    (h : findChars pattern cs start = some found) :
    ∃ before after, cs = before ++ (pattern ++ after) ∧
      found = start + (String.ofList before).utf8ByteSize := by
  induction cs generalizing start with
  | nil =>
      rw [findChars] at h
      split at h
      · next hprefix =>
        cases h
        exact found_at_start hprefix _
      · cases h
  | cons c cs ih =>
      rw [findChars] at h
      split at h
      · next hprefix =>
        cases h
        exact found_at_start hprefix _
      · obtain ⟨before, after, hcs, hfound⟩ := ih h
        refine ⟨c :: before, after, by rw [hcs, List.cons_append], ?_⟩
        rw [hfound, utf8ByteSize_ofList_cons, Nat.add_assoc]

theorem utf8Size_of_mem_months : ∀ c ∈ months.toList, c.utf8Size = 1 := by
  simp [months, Char.utf8Size_eq_one_iff]

/-- A text of three characters is found where `MONTHS` has them. -/
theorem eq_of_findText {text : String} {start : Nat} (hlength : text.length = 3)
    (h : findText months text = some start) :
    start < 34 ∧ text = String.ofList ((months.toList.drop start).take 3) := by
  obtain ⟨before, after, hsplit, hstart⟩ := findChars_spec h
  have hascii : ∀ c ∈ before, c.utf8Size = 1 := by
    intro c hc
    exact utf8Size_of_mem_months c (hsplit ▸ List.mem_append_left _ hc)
  have hbefore : start = before.length := by
    rw [hstart, utf8ByteSize_ascii hascii, Nat.zero_add]
  have htext : text.toList.length = 3 := hlength
  have htotal : months.toList.length = 36 := by decide
  have hsum := congrArg List.length hsplit
  rw [htotal, List.length_append, List.length_append, htext] at hsum
  refine ⟨by omega, ?_⟩
  rw [hbefore, hsplit, List.drop_left, ← htext, List.take_left, String.ofList_toList]

theorem monthNames_slice : ∀ start < 34, ∀ m < 12,
    monthNames[m]? = some (String.ofList ((months.toList.drop start).take 3)) ↔ start = 3 * m := by
  decide +kernel

/-- At the start of an abbreviation the text is that abbreviation, elsewhere it is none. -/
theorem isMonth_of_findText {text : String} {start : Nat} (hlength : text.length = 3)
    (h : findText months text = some start) (month : Nat) :
    IsMonth text month ↔ 3 ∣ start ∧ month = start / 3 + 1 := by
  obtain ⟨hstart, htext⟩ := eq_of_findText hlength h
  unfold IsMonth
  by_cases hmonth : month - 1 < 12
  · rw [htext, monthNames_slice start hstart (month - 1) hmonth]
    omega
  · have hnone : monthNames[month - 1]? = none := List.getElem?_eq_none (Nat.not_lt.mp hmonth)
    rw [hnone]
    constructor
    · rintro ⟨-, htext⟩
      cases htext
    · omega

theorem findText_monthNames : ∀ m < 12, findText months (monthNames.getD m "") = some (3 * m) := by
  decide +kernel

/-- An abbreviation is found where it stands. -/
theorem findText_of_isMonth {text : String} {month : Nat} (h : IsMonth text month) :
    findText months text = some (3 * (month - 1)) := by
  obtain ⟨hpos, htext⟩ := h
  have hmonth : month - 1 < 12 := (List.getElem?_eq_some_iff.mp htext).1
  have hfind := findText_monthNames (month - 1) hmonth
  rw [List.getD_eq_getElem?_getD, htext] at hfind
  exact hfind

/-! ## The date -/

variable {today date : NaiveDate} {monthText dayText : String} {month day : Nat}

/-- What the code makes of a month and a day. -/
def resolveDay (today : NaiveDate) (month day : Nat) : Option NaiveDate :=
  match (DateIn.ofYmd today.year month day : Option NaiveDate) with
  | none => none
  | some date => if date > today then DateIn.ofYmd (today.year - 1) month day else some date

theorem orError_eq_ok_iff {α : Type} {o : Option α} {e : Error} {a : α} : orError o e = .ok a ↔ o = some a := by
  cases o <;> simp [orError]

theorem resolveDate_of_texts {start : Nat} (hfind : findText months monthText = some start)
    (hday : parseU32 dayText = some day) :
    resolveDate today monthText dayText = orError (resolveDay today (start / 3 + 1) day) .noneError := by
  unfold resolveDate resolveDay
  rw [hfind, hday]
  show (orError (DateIn.ofYmd today.year (start / 3 + 1) day) Error.noneError >>= _) = _
  cases hthis : (DateIn.ofYmd today.year (start / 3 + 1) day : Option NaiveDate) with
  | none => rfl
  | some date =>
      obtain ⟨-, hmonth, hday⟩ := DateIn.ofYmd_eq_some_iff.mp hthis
      show (if date > today then orError (NaiveDate.withYear date (today.year - 1)) Error.noneError
        else .ok date) = _
      rw [NaiveDate.withYear, hmonth, hday]
      by_cases hlate : date > today
      · rw [if_pos hlate]
        simp only [if_pos hlate]
      · rw [if_neg hlate]
        simp only [if_neg hlate]
        rfl

theorem resolveDate_eq_ok_iff :
    resolveDate today monthText dayText = .ok date ↔
      ∃ start day, findText months monthText = some start ∧ parseU32 dayText = some day ∧
        resolveDay today (start / 3 + 1) day = some date := by
  constructor
  · intro h
    cases hfind : findText months monthText with
    | none => simp [resolveDate, hfind, orError, bind, Except.bind] at h
    | some start =>
        cases hday : parseU32 dayText with
        | none => simp [resolveDate, hfind, hday, orError, bind, Except.bind] at h
        | some day =>
            rw [resolveDate_of_texts hfind hday] at h
            exact ⟨start, day, rfl, rfl, orError_eq_ok_iff.mp h⟩
  · rintro ⟨start, day, hfind, hday, hdate⟩
    rw [resolveDate_of_texts hfind hday]
    exact orError_eq_ok_iff.mpr hdate

/-- The code rejects the days that are not there. -/
theorem resolveDay_eq_none_iff : resolveDay today month day = none ↔ NoSuchDay today month day := by
  unfold resolveDay NoSuchDay
  cases (DateIn.ofYmd today.year month day : Option NaiveDate) with
  | none => simp
  | some date =>
      by_cases hlate : date > today
      · simp [hlate]
      · simp [hlate]

/-- The code finds the latest day, unless that is the 29 February of the year before. -/
theorem resolveDay_eq_some_iff (hleap : ¬(month = 2 ∧ day = 29 ∧ IsLeap (today.year - 1))) :
    resolveDay today month day = some date ↔ IsGreatest (DateIn.candidates today month day) date := by
  unfold resolveDay
  cases hthis : (DateIn.ofYmd today.year month day : Option NaiveDate) with
  | none =>
      have hnot := (DateIn.ofYmd_eq_none_iff ⟨today.first_le, today.le_last⟩).mp hthis
      rw [DateIn.isGreatest_lastYear (by simp [hthis])]
      constructor
      · rintro ⟨⟩
      · intro hdate
        obtain ⟨hyear, hmonth, hday⟩ := DateIn.ofYmd_eq_some_iff.mp hdate
        have hlast : IsDate (today.year - 1) month day := hyear ▸ hmonth ▸ hday ▸ date.isDate
        obtain ⟨rfl, rfl⟩ := leapDay_of_only hlast hnot
        exact absurd ⟨rfl, rfl, isDate_leapDay.mp hlast⟩ hleap
  | some guess =>
      by_cases hlate : guess > today
      · simp only [if_pos hlate]
        have hthis' : ∀ d', DateIn.ofYmd today.year month day = some d' → today < d' := by
          intro d' hd'
          rw [hthis] at hd'
          cases hd'
          exact hlate
        exact (DateIn.isGreatest_lastYear hthis').symm
      · simp only [if_neg hlate, Option.some.injEq]
        have hgreatest := DateIn.isGreatest_thisYear hthis (not_lt.mp hlate)
        exact ⟨fun h => h ▸ hgreatest, fun h => hgreatest.unique h⟩

/-- The 29 February of the year before is the latest, and the code rejects it. -/
theorem resolveDay_leapDay (hleap : IsLeap (today.year - 1)) :
    resolveDay today 2 29 = none ∧ ∃ date, IsGreatest (DateIn.candidates today 2 29) date := by
  have hnot : ¬IsDate today.year 2 29 := by
    rw [isDate_leapDay]
    simpa using not_isLeap_succ hleap
  have hthis := (DateIn.ofYmd_eq_none_iff ⟨today.first_le, today.le_last⟩).mpr hnot
  refine ⟨by rw [resolveDay, hthis], ?_⟩
  -- the year before the first one is no leap year
  have hfirst : minYear ≤ today.year - 1 := by
    have hrange : -262144 ≤ today.year := today.first_le
    obtain ⟨hfour, -⟩ := hleap
    show -262144 ≤ today.year - 1
    omega
  have hlast : today.year - 1 ≤ maxYear := by
    have hrange := today.le_last
    omega
  let date : NaiveDate := ⟨today.year - 1, 2, 29, isDate_leapDay.mpr hleap, hfirst, hlast⟩
  have hdate : DateIn.ofYmd (today.year - 1) 2 29 = some date := DateIn.ofYmd_eq_some_iff.mpr ⟨rfl, rfl, rfl⟩
  exact ⟨date, (DateIn.isGreatest_lastYear (by simp [hthis])).mpr hdate⟩

/-- A text across two abbreviations is none of them. -/
theorem not_isMonth_of_across {month' : Nat} (hlength : monthText.length = 3)
    (h : AcrossMonths monthText month') : ¬IsMonth monthText month := by
  obtain ⟨start, hfind, hacross, -⟩ := h
  intro hmonth
  exact hacross ((isMonth_of_findText hlength hfind month).mp hmonth).1

theorem isMonth_two {text : String} (h : IsMonth text 2) : text = "Feb" := (Option.some.inj h.2).symm

theorem not_leapDayBefore_of_latest (hlength : monthText.length = 3)
    (h : ResolvesToLatest today monthText dayText) : ¬LeapDayBefore today monthText dayText := by
  rintro ⟨rfl, hday, hleap⟩
  obtain ⟨hnone, date, hdate⟩ := resolveDay_leapDay hleap
  have hmonth : IsMonth "Feb" 2 := ⟨by decide, rfl⟩
  obtain ⟨start, day, hfind, hday', hresolved⟩ :=
    resolveDate_eq_ok_iff.mp ((h date).mpr ⟨2, 29, hmonth, hday, hdate⟩)
  rw [hday] at hday'
  cases hday'
  rw [← ((isMonth_of_findText hlength hfind 2).mp hmonth).2, hnone] at hresolved
  cases hresolved

theorem noSuchDay_of_latest (hlength : monthText.length = 3) (h : ResolvesToLatest today monthText dayText)
    (hacross : AcrossMonths monthText month) (hday : parseU32 dayText = some day) :
    NoSuchDay today month day := by
  rw [← resolveDay_eq_none_iff, Option.eq_none_iff_forall_ne_some]
  intro date hdate
  obtain ⟨start, hfind, -, rfl⟩ := id hacross
  obtain ⟨month, _, hmonth, -⟩ := (h date).mp (resolveDate_eq_ok_iff.mpr ⟨start, day, hfind, hday, hdate⟩)
  exact not_isMonth_of_across hlength hacross hmonth

theorem resolvesToLatest_of (hlength : monthText.length = 3) (hleap : ¬LeapDayBefore today monthText dayText)
    (hacross : ∀ month day, AcrossMonths monthText month → parseU32 dayText = some day →
      NoSuchDay today month day) : ResolvesToLatest today monthText dayText := by
  intro date
  have hnotLeap {month day : Nat} (hmonth : IsMonth monthText month) (hday : parseU32 dayText = some day) :
      ¬(month = 2 ∧ day = 29 ∧ IsLeap (today.year - 1)) := by
    rintro ⟨rfl, rfl, hleapYear⟩
    exact hleap ⟨isMonth_two hmonth, hday, hleapYear⟩
  rw [resolveDate_eq_ok_iff]
  constructor
  · rintro ⟨start, day, hfind, hday, hdate⟩
    by_cases hstart : 3 ∣ start
    · have hmonth := (isMonth_of_findText hlength hfind (start / 3 + 1)).mpr ⟨hstart, rfl⟩
      exact ⟨start / 3 + 1, day, hmonth, hday, (resolveDay_eq_some_iff (hnotLeap hmonth hday)).mp hdate⟩
    · have hnone := resolveDay_eq_none_iff.mpr (hacross _ day ⟨start, hfind, hstart, rfl⟩ hday)
      rw [hnone] at hdate
      cases hdate
  · rintro ⟨month, day, hmonth, hday, hdate⟩
    have hfind := findText_of_isMonth hmonth
    have hnumber := ((isMonth_of_findText hlength hfind month).mp hmonth).2
    refine ⟨_, day, hfind, hday, ?_⟩
    rw [← hnumber]
    exact (resolveDay_eq_some_iff (hnotLeap hmonth hday)).mpr hdate

/-- **Dates of log lines.** The latest such date is found, except that the 29 February of the year before is
    not, and that a text across two abbreviations counts as a month. -/
theorem resolvesToLatest_iff (hlength : monthText.length = 3) :
    ResolvesToLatest today monthText dayText ↔
      ¬LeapDayBefore today monthText dayText ∧
      ∀ month day, AcrossMonths monthText month → parseU32 dayText = some day → NoSuchDay today month day := by
  constructor
  · intro h
    refine ⟨not_leapDayBefore_of_latest hlength h, ?_⟩
    intro month day hacross hday
    exact noSuchDay_of_latest hlength h hacross hday
  · rintro ⟨hleap, hacross⟩
    exact resolvesToLatest_of hlength hleap hacross

/-- The date of a line that is recorded has been resolved. -/
theorem resolveDate_of_parseLogLine [Platform] [LogFormat] {devices : List DeviceDbo} {line : String}
    {query : Device × String} (h : parseLogLine today devices line = .ok (some query)) :
    ∃ m date, LogFormat.captures line = some m ∧ resolveDate today m.month m.day = .ok date := by
  unfold parseLogLine at h
  cases hcaptures : LogFormat.captures line with
  | none =>
      rw [hcaptures] at h
      cases h
  | some m =>
      rw [hcaptures] at h
      cases hdate : resolveDate today m.month m.day with
      | error e =>
          simp only [hdate] at h
          cases h
      | ok date => exact ⟨m, date, rfl, hdate⟩

/-- 15 January 2021. -/
def january : NaiveDate := ⟨2021, 1, 15, by decide, by decide, by decide⟩

theorem december_latest : ResolvesToLatest january "Dec" "31" := by
  refine (resolvesToLatest_iff rfl).mpr ⟨?_, ?_⟩
  · rintro ⟨htext, -⟩
    exact absurd htext (by decide)
  · rintro month day ⟨start, hfind, hacross, -⟩ -
    have hstart : findText months "Dec" = some 33 := by decide
    rw [hstart] at hfind
    cases hfind
    exact absurd (by decide) hacross

/-- In January the last 29 February is not found, and "anF" is January. -/
theorem leapDay_not_latest : ¬ResolvesToLatest january "Feb" "29" ∧ ¬ResolvesToLatest january "anF" "5" := by
  constructor
  · intro h
    obtain ⟨-, date, hdate⟩ : resolveDay january 2 29 = none ∧ _ := resolveDay_leapDay (by decide)
    have hresolved := (h date).mpr ⟨2, 29, ⟨by decide, rfl⟩, by decide, hdate⟩
    have hrejected : resolveDate january "Feb" "29" = .error .noneError := by rfl
    rw [hrejected] at hresolved
    cases hresolved
  · intro h
    have hacross : AcrossMonths "anF" 1 := ⟨1, by decide, by decide, by decide⟩
    have hresolved : resolveDate january "anF" "5" = .ok ⟨2021, 1, 5, by decide, by decide, by decide⟩ := by rfl
    obtain ⟨month, _, hmonth, -⟩ := (h _).mp hresolved
    exact not_isMonth_of_across rfl hacross hmonth

end MudController
