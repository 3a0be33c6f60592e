import KeyBound.Time.Calendar
import Mathlib.Tactic.IntervalCases

/-!
# Dates and the days that they count

Every day has a date, by which it is found again, and the days of a year are those from its first of
January to the next one.
-/

set_option autoImplicit false

namespace KeyBound.Date

/-! ## Days of a date -/

/-- The year of a date, if years began in March. -/
def marchYear (date : Date) : Int := if date.month ≤ 2 then date.year - 1 else date.year

/-- The days since the last first of March. -/
def dayFromMarch (date : Date) : Int :=
  (153 * ((date.month + 9) % 12 : Nat) + 2) / 5 + date.day - 1

theorem toDays_eq (date : Date) :
    date.toDays = 365 * date.marchYear + date.marchYear / 4 - date.marchYear / 100 +
      date.marchYear / 400 + date.dayFromMarch - 719468 := by
  simp only [toDays, marchYear, dayFromMarch]
  generalize (if date.month ≤ 2 then date.year - 1 else date.year) = year
  rw [Int.fdiv_eq_ediv_of_nonneg _ (by decide), Int.fmod_eq_emod_of_nonneg _ (by decide)]
  omega

/-- The days since the first of March reach into January and February, but not through them. -/
theorem dayFromMarch_bounds {date : Date} (valid : date.isValid = true) :
    if date.month ≤ 2 then 306 ≤ date.dayFromMarch ∧ date.dayFromMarch ≤ 365
    else 0 ≤ date.dayFromMarch ∧ date.dayFromMarch ≤ 305 := by
  obtain ⟨year, month, day⟩ := date
  simp only [isValid, Bool.and_eq_true, decide_eq_true_eq] at valid
  obtain ⟨⟨⟨low, high⟩, first⟩, last⟩ := valid
  have short : monthLength year 2 ≤ 29 := by
    simp only [monthLength]
    split <;> omega
  simp only [dayFromMarch]
  interval_cases month
  case «2» =>
    simp
    omega
  all_goals
    simp [monthLength] at last
    simp
    omega

/-- A date lies before a year exactly if its day lies before the first one of the year. -/
theorem year_lt_iff {date : Date} (valid : date.isValid = true) (year : Int) :
    date.year < year ↔ date.toDays < (⟨year, 1, 1⟩ : Date).toDays := by
  have bounds := dayFromMarch_bounds valid
  have newYear : (⟨year, 1, 1⟩ : Date).dayFromMarch = 306 ∧
      (⟨year, 1, 1⟩ : Date).marchYear = year - 1 := by
    simp [dayFromMarch, marchYear]
  rw [toDays_eq, toDays_eq, newYear.1, newYear.2]
  simp only [marchYear]
  split at bounds
  · omega
  · omega

/-! ## Dates of a day -/

/-- Centuries, spans of four years, years and days of an era. -/
structure IsDayOfEra (c q k r : Int) : Prop where
  century : 0 ≤ c ∧ c ≤ 3
  cycle : 0 ≤ q ∧ q ≤ 24
  year : 0 ≤ k ∧ k ≤ 3
  day : 0 ≤ r ∧ (r ≤ 364 ∨ r = 365 ∧ k = 3 ∧ (q < 24 ∨ c = 3))

theorem exists_isDayOfEra {d : Int} (low : 0 ≤ d) (high : d < 146097) :
    ∃ c q k r, IsDayOfEra c q k r ∧ d = 36524 * c + 1461 * q + 365 * k + r := by
  obtain ⟨c, e, century, cd⟩ : ∃ c e, (0 ≤ c ∧ c ≤ 3 ∧ 0 ≤ e ∧ (e < 36524 ∨ e = 36524 ∧ c = 3)) ∧
      d = 36524 * c + e := by
    by_cases last : d = 146096
    · exact ⟨3, 36524, by omega⟩
    · exact ⟨d / 36524, d % 36524, by omega⟩
  obtain ⟨q, f, cycle, qe⟩ : ∃ q f, (0 ≤ q ∧ q ≤ 24 ∧ 0 ≤ f ∧ f < 1461) ∧ e = 1461 * q + f :=
    ⟨e / 1461, e % 1461, by omega⟩
  obtain ⟨k, r, year, kf⟩ : ∃ k r, (0 ≤ k ∧ k ≤ 3 ∧ 0 ≤ r ∧ (r ≤ 364 ∨ r = 365 ∧ k = 3)) ∧
      f = 365 * k + r := by
    by_cases last : f = 1460
    · exact ⟨3, 365, by omega⟩
    · exact ⟨f / 365, f % 365, by omega⟩
  exact ⟨c, q, k, r, ⟨by omega, by omega, by omega, by omega⟩, by omega⟩

namespace IsDayOfEra

variable {c q k r : Int}

/-- The year of an era is found by leaving out the leap days before it. -/
theorem year_eq {d : Int} (inside : IsDayOfEra c q k r)
    (day : d = 36524 * c + 1461 * q + 365 * k + r) :
    (d - d / 1460 + d / 36524 - d / 146096) / 365 = 100 * c + 4 * q + k := by
  obtain ⟨⟨_, _⟩, ⟨_, _⟩, ⟨_, _⟩, _, _⟩ := inside
  have centuries : d / 36524 - d / 146096 = c := by
    by_cases last : d = 146096
    · omega
    · have whole : d / 146096 = 0 := by omega
      have within : 1461 * q + 365 * k + r < 36524 := by omega
      omega
  have cycles : d / 1460 = 25 * c + q + (24 * c + q + 365 * k + r) / 1460 := by omega
  have carry : 0 ≤ r - (24 * c + q + 365 * k + r) / 1460 ∧
      r - (24 * c + q + 365 * k + r) / 1460 ≤ 364 := by omega
  generalize (24 * c + q + 365 * k + r) / 1460 = leapDays at cycles carry
  omega

theorem start_eq (inside : IsDayOfEra c q k r) :
    365 * (100 * c + 4 * q + k) + (100 * c + 4 * q + k) / 4 - (100 * c + 4 * q + k) / 100 =
      36524 * c + 1461 * q + 365 * k := by
  obtain ⟨⟨_, _⟩, ⟨_, _⟩, ⟨_, _⟩, _, _⟩ := inside
  omega

end IsDayOfEra

def afterMarch (year r : Int) : Date :=
  let monthFromMarch := (5 * r + 2) / 153
  let month := if monthFromMarch < 10 then monthFromMarch + 3 else monthFromMarch - 9
  ⟨year + (if month ≤ 2 then 1 else 0), month.toNat, (r - (153 * monthFromMarch + 2) / 5 + 1).toNat⟩

theorem afterMarch_spec {year r : Int} (day : 0 ≤ r ∧ r ≤ 365)
    (leap : r = 365 → isLeap (year + 1) = true) :
    let date := afterMarch year r
    date.marchYear = year ∧ date.dayFromMarch = r ∧ date.isValid = true := by
  obtain ⟨m, months, low, high⟩ : ∃ m, (5 * r + 2) / 153 = m ∧ 0 ≤ m ∧ m ≤ 11 :=
    ⟨_, rfl, by omega, by omega⟩
  simp only [afterMarch, marchYear, dayFromMarch, isValid, months, Bool.and_eq_true,
    decide_eq_true_eq]
  interval_cases m
  case «11» =>
    -- Only February has a day that some years lack.
    have length : r - 336 ≤ monthLength (year + 1) 2 := by
      simp only [monthLength]
      split
      · omega
      · rename_i common
        have short : r ≠ 365 := fun last => common (leap last)
        omega
    simp
    omega
  all_goals
    simp [monthLength]
    omega

theorem ofDays_eq {days era c q k r : Int} (inside : IsDayOfEra c q k r)
    (whole : days + 719468 = 146097 * era + (36524 * c + 1461 * q + 365 * k + r)) :
    ofDays days = afterMarch (100 * c + 4 * q + k + era * 400) r := by
  obtain ⟨d, day⟩ : ∃ d, d = 36524 * c + 1461 * q + 365 * k + r := ⟨_, rfl⟩
  have bounds : 0 ≤ d ∧ d < 146097 := by
    obtain ⟨⟨_, _⟩, ⟨_, _⟩, ⟨_, _⟩, _, _⟩ := inside
    omega
  have eras : (days + 719468).fdiv 146097 = era ∧ (days + 719468).fmod 146097 = d := by
    rw [Int.fdiv_eq_ediv_of_nonneg _ (by decide), Int.fmod_eq_emod_of_nonneg _ (by decide)]
    omega
  have rest : d - (365 * (100 * c + 4 * q + k) + (100 * c + 4 * q + k) / 4 -
      (100 * c + 4 * q + k) / 100) = r := by
    rw [inside.start_eq]
    omega
  simp only [ofDays, eras, inside.year_eq day, rest, afterMarch]

/-- Every day has a date, by which it is found again. -/
theorem ofDays_spec (days : Int) : (ofDays days).isValid = true ∧ (ofDays days).toDays = days := by
  obtain ⟨c, q, k, r, inside, day⟩ := exists_isDayOfEra
    (Int.emod_nonneg (days + 719468) (by decide : (146097 : Int) ≠ 0))
    (Int.emod_lt_of_pos (days + 719468) (by decide))
  have whole : days + 719468 =
      146097 * ((days + 719468) / 146097) + (36524 * c + 1461 * q + 365 * k + r) := by
    rw [← day]
    exact (Int.mul_ediv_add_emod _ _).symm
  generalize (days + 719468) / 146097 = era at whole
  obtain ⟨⟨_, _⟩, ⟨_, _⟩, ⟨_, _⟩, _, last⟩ := id inside
  have leap : r = 365 → isLeap (100 * c + 4 * q + k + era * 400 + 1) = true := by
    intro leapDay
    simp only [isLeap, Bool.and_eq_true, Bool.or_eq_true, beq_iff_eq, bne_iff_ne]
    omega
  obtain ⟨year, count, valid⟩ := afterMarch_spec (by omega) leap
  rw [ofDays_eq inside whole]
  refine ⟨valid, ?_⟩
  rw [toDays_eq, year, count]
  omega

end KeyBound.Date
