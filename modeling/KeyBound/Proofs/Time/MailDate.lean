import KeyBound.Proofs.Time.Calendar
import KeyBound.Time.MailDate
import Mathlib.Data.List.TakeWhile

/-!
# Dates as servers write them

The fixed form in which a server writes a date, such as `Tue, 14 Nov 2023 22:13:20 GMT`. From 1900
on it is read back as the second that it was written for.
-/

set_option autoImplicit false

namespace KeyBound.MailDate

/-! ## Writing -/

def fixedDigits : (count : Nat) → Nat → List Char
  | 0, _ => []
  | count + 1, n => Nat.digitChar (n / Nat.pow 10 count % 10) :: fixedDigits count n

/-- The name of the weekday of a day since 1970, which began on a Thursday. -/
def weekdayName (days : Int) : List Char :=
  match ((days + 4).fmod 7).toNat with
  | 0 => ['S', 'u', 'n']
  | 1 => ['M', 'o', 'n']
  | 2 => ['T', 'u', 'e']
  | 3 => ['W', 'e', 'd']
  | 4 => ['T', 'h', 'u']
  | 5 => ['F', 'r', 'i']
  | _ => ['S', 'a', 't']

def monthName : Nat → List Char
  | 1 => ['J', 'a', 'n']
  | 2 => ['F', 'e', 'b']
  | 3 => ['M', 'a', 'r']
  | 4 => ['A', 'p', 'r']
  | 5 => ['M', 'a', 'y']
  | 6 => ['J', 'u', 'n']
  | 7 => ['J', 'u', 'l']
  | 8 => ['A', 'u', 'g']
  | 9 => ['S', 'e', 'p']
  | 10 => ['O', 'c', 't']
  | 11 => ['N', 'o', 'v']
  | _ => ['D', 'e', 'c']

def timeText (second : Nat) : List Char :=
  fixedDigits 2 (second / 3600) ++ ':' :: (fixedDigits 2 (second / 60 % 60) ++
    ':' :: fixedDigits 2 (second % 60))

/-- A second since 1970 in the fixed form. -/
def fixedText (unix : Int) : List Char :=
  let days := unix.fdiv 86400
  let date := Date.ofDays days
  weekdayName days ++ ',' :: ' ' :: (fixedDigits 2 date.day ++ ' ' :: (monthName date.month ++
    ' ' :: (fixedDigits 4 date.year.toNat ++ ' ' :: (timeText (unix.fmod 86400).toNat ++
      [' ', 'G', 'M', 'T']))))

example : fixedText 1700000000 = "Tue, 14 Nov 2023 22:13:20 GMT".toList := by decide +kernel

/-! ## Reading -/

/-- A text that starts with neither a blank nor a comment. -/
def IsFlush (text : List Char) : Prop := ∀ c ∈ text.head?, isFolding c = false ∧ c ≠ '('

theorem skipComments_of_isFlush {text : List Char} (flush : IsFlush text) (fuel : Nat) :
    skipComments fuel text = text := by
  cases fuel with
  | zero => rfl
  | succ fuel =>
      cases text with
      | nil => rfl
      | cons c rest =>
          obtain ⟨solid, plain⟩ := flush c rfl
          simp [skipComments, solid, plain]

theorem optionalGap_of_isFlush {text : List Char} (flush : IsFlush text) :
    optionalGap text = text :=
  skipComments_of_isFlush flush _

theorem optionalGap_space {text : List Char} (flush : IsFlush text) :
    optionalGap (' ' :: text) = text := by
  have blank : isFolding ' ' = true := rfl
  cases text with
  | nil => rfl
  | cons c rest =>
      obtain ⟨solid, plain⟩ := flush c rfl
      simp [optionalGap, skipComments, blank, solid, plain]

theorem gap?_space {text : List Char} (flush : IsFlush text) : gap? (' ' :: text) = some text := by
  rw [gap?, optionalGap_space flush]
  simp

theorem blanks?_space {text : List Char} (flush : IsFlush text) :
    blanks? (' ' :: text) = some text := by
  have solid : text.dropWhile isFolding = text := by
    cases text with
    | nil => rfl
    | cons c rest => exact List.dropWhile_cons_of_neg (by simp [(flush c rfl).1])
  rw [blanks?, List.dropWhile_cons_of_pos rfl, solid]
  simp

theorem digitChar_spec :
    ∀ d < 10, (Nat.digitChar d).isDigit = true ∧ (Nat.digitChar d).toNat - 48 = d ∧
      isFolding (Nat.digitChar d) = false ∧ Nat.digitChar d ≠ '(' := by
  decide

private theorem digits?_mod (count n : Nat) (rest : List Char) :
    digits? count (fixedDigits count n ++ rest) = some (n % Nat.pow 10 count, rest) := by
  induction count with
  | zero => simp [fixedDigits, digits?, Nat.mod_one]
  | succ count ih =>
      obtain ⟨digit, value, _⟩ := digitChar_spec (n / Nat.pow 10 count % 10) (by omega)
      have whole : n / Nat.pow 10 count % 10 * Nat.pow 10 count + n % Nat.pow 10 count =
          n % Nat.pow 10 (count + 1) := by
        rw [show Nat.pow 10 (count + 1) = Nat.pow 10 count * 10 from rfl, Nat.mod_mul,
          Nat.mul_comm, Nat.add_comm]
      rw [fixedDigits, List.cons_append, digits?, digit, ih]
      simp only [↓reduceIte, Option.bind_eq_bind, Option.bind_some, value, whole]

theorem digits?_fixedDigits {count n : Nat} (fits : n < Nat.pow 10 count) (rest : List Char) :
    digits? count (fixedDigits count n ++ rest) = some (n, rest) := by
  rw [digits?_mod, Nat.mod_eq_of_lt fits]

theorem isFlush_fixedDigits {count : Nat} (positive : 0 < count) (n : Nat) (rest : List Char) :
    IsFlush (fixedDigits count n ++ rest) := by
  cases count with
  | zero => cases positive
  | succ count =>
      rintro c ⟨⟩
      exact (digitChar_spec (n / Nat.pow 10 count % 10) (by omega)).2.2

theorem named?_weekdayName (days : Int) (rest : List Char) :
    named? weekdays (weekdayName days ++ rest) = some ((), rest) := by
  unfold weekdayName
  split <;> rfl

theorem isFlush_weekdayName (days : Int) (rest : List Char) :
    IsFlush (weekdayName days ++ rest) := by
  unfold weekdayName
  split <;> (rintro c ⟨⟩; decide)

theorem named?_monthName {month : Nat} (inside : 1 ≤ month ∧ month ≤ 12) (rest : List Char) :
    named? months (monthName month ++ rest) = some (month, rest) := by
  obtain ⟨low, high⟩ := inside
  interval_cases month <;> rfl

theorem isFlush_monthName (month : Nat) (rest : List Char) :
    IsFlush (monthName month ++ rest) := by
  unfold monthName
  split <;> (rintro c ⟨⟩; decide)

/-! ## Dates in the fixed form -/

variable {rest : List Char}

theorem weekday?_weekdayName (days : Int) (flush : IsFlush rest) :
    weekday? (weekdayName days ++ ',' :: ' ' :: rest) = some rest := by
  simp [weekday?, named?_weekdayName, mark?, optionalGap_space flush]

theorem day?_fixedDigits {day : Nat} (fits : day < 100) (rest : List Char) :
    day? (fixedDigits 2 day ++ rest) = some (day, rest) := by
  rw [day?, @digits?_fixedDigits 2 _ fits]

theorem year?_fixedDigits {year : Nat} (inside : 1900 ≤ year ∧ year < 10000)
    (flush : IsFlush rest) : year? (fixedDigits 4 year ++ ' ' :: rest) = some (year, rest) := by
  have fits : year < Nat.pow 10 4 := inside.2
  have recent : ¬ year < 1900 := Nat.not_lt.mpr inside.1
  simp [year?, digits?_fixedDigits fits, recent, blanks?_space flush]

theorem mark?_colon (n : Nat) (rest : List Char) :
    mark? ':' (optionalGap (':' :: (fixedDigits 2 n ++ rest))) =
      some (fixedDigits 2 n ++ rest) := by
  have flush : IsFlush (':' :: (fixedDigits 2 n ++ rest)) := by
    rintro c ⟨⟩
    decide
  rw [optionalGap_of_isFlush flush]
  rfl

theorem second?_colon {second : Nat} (fits : second < 100) (rest : List Char) :
    second? (':' :: (fixedDigits 2 second ++ rest)) = some (second, rest) := by
  have flush := isFlush_fixedDigits (by decide : 0 < 2) second rest
  rw [second?, mark?_colon]
  dsimp only
  rw [optionalGap_of_isFlush flush, @digits?_fixedDigits 2 _ fits]

theorem ofParts?_ofDays (days : Int) {second : Nat} (inDay : second < 86400) :
    ofParts? (Date.ofDays days) (second / 3600) (second / 60 % 60) (second % 60) 0 =
      some ⟨(days * 86400 + second) * nanosPerSecond, 0⟩ := by
  obtain ⟨valid, counted⟩ := Date.ofDays_spec days
  have refused : ¬ ((!(Date.ofDays days).isValid) = true ∨ 23 < second / 3600 ∨
      59 < second / 60 % 60) := by
    rw [valid]
    simp
    omega
  have seconds : second % 60 < 60 := by omega
  rw [ofParts?, if_neg refused, counted]
  dsimp only
  rw [if_pos seconds]
  congr 3
  omega

/-- The parts of a date from 1900 to 9999 fit the digits that they are written with. -/
theorem exists_parts {days : Int} (low : -25567 ≤ days) (high : days < 2932897) :
    ∃ year month day : Nat, Date.ofDays days = ⟨year, month, day⟩ ∧
      (1900 ≤ year ∧ year < 10000) ∧ (1 ≤ month ∧ month ≤ 12) ∧ day < 100 := by
  obtain ⟨valid, counted⟩ := Date.ofDays_spec days
  have from1900 := Date.year_lt_iff valid 1900
  have to9999 := Date.year_lt_iff valid 10000
  have first : (⟨1900, 1, 1⟩ : Date).toDays = -25567 := by decide
  have last : (⟨10000, 1, 1⟩ : Date).toDays = 2932897 := by decide
  rw [counted, first] at from1900
  rw [counted, last] at to9999
  generalize Date.ofDays days = date at *
  obtain ⟨year, month, day⟩ := date
  simp only [Date.isValid, Bool.and_eq_true, decide_eq_true_eq] at valid from1900 to9999
  obtain ⟨⟨inYear, _⟩, lastDay⟩ := valid
  have length : Date.monthLength year month ≤ 31 := by
    unfold Date.monthLength
    split <;> (try split) <;> omega
  obtain ⟨year, rfl⟩ : ∃ n : Nat, year = n := ⟨year.toNat, by omega⟩
  exact ⟨year, month, day, rfl, by omega, inYear, by omega⟩

/-- The seconds from 1900 on are read back from the fixed form, up to the year 9999. -/
theorem parse?_fixedText {unix : Int} (low : -2208988800 ≤ unix) (high : unix ≤ lastSecond) :
    parse? (fixedText unix) = some ⟨unix * nanosPerSecond, 0⟩ := by
  obtain ⟨days, second, inDay, toDays, toSecond, rfl⟩ : ∃ days, ∃ second : Nat, second < 86400 ∧
      unix.fdiv 86400 = days ∧ (unix.fmod 86400).toNat = second ∧ unix = days * 86400 + second := by
    refine ⟨unix.fdiv 86400, (unix.fmod 86400).toNat, ?_⟩
    rw [Int.fdiv_eq_ediv_of_nonneg _ (by decide), Int.fmod_eq_emod_of_nonneg _ (by decide)]
    omega
  simp only [lastSecond] at high
  obtain ⟨year, month, day, date, inYears, inYear, inMonth⟩ :=
    @exists_parts days (by omega) (by omega)
  have combined := ofParts?_ofDays days inDay
  rw [date] at combined
  have hours : second / 3600 < Nat.pow 10 2 := show _ < 100 by omega
  have minutes : second / 60 % 60 < Nat.pow 10 2 := show _ < 100 by omega
  have twoDigits (n : Nat) (rest : List Char) : IsFlush (fixedDigits 2 n ++ rest) :=
    isFlush_fixedDigits (by decide) n rest
  have fourDigits (n : Nat) (rest : List Char) : IsFlush (fixedDigits 4 n ++ rest) :=
    isFlush_fixedDigits (by decide) n rest
  have next {α β : Type} {part : Option α} {later : α → Option β} {a : α} {b : β}
      (read : part = some a) (ends : later a = some b) : part.bind later = some b :=
    Option.bind_eq_some_iff.mpr ⟨a, read, ends⟩
  rw [fixedText, toDays, toSecond, date, timeText]
  simp only [List.append_assoc, List.cons_append, Int.toNat_natCast]
  rw [parse?, optionalGap_of_isFlush (isFlush_weekdayName _ _)]
  refine next (weekday?_weekdayName _ (twoDigits _ _)) ?_
  refine next (day?_fixedDigits inMonth _) ?_
  refine next (gap?_space (isFlush_monthName _ _)) ?_
  refine next (named?_monthName inYear _) ?_
  refine next (gap?_space (fourDigits _ _)) ?_
  refine next (year?_fixedDigits inYears (twoDigits _ _)) ?_
  refine next (digits?_fixedDigits hours _) ?_
  refine next (mark?_colon _ _) ?_
  rw [optionalGap_of_isFlush (twoDigits _ _)]
  refine next (digits?_fixedDigits minutes _) ?_
  refine next (second?_colon (show second % 60 < 100 by omega) _) ?_
  exact combined

end KeyBound.MailDate
