import KeyBound.Proofs.Text.Parts
import KeyBound.Proofs.Time.Instant
import KeyBound.Proofs.Time.MailDate
import KeyBound.Retry.RateLimit
import Mathlib.Order.Bounds.Basic

/-!
# Delays after a rate limit

How long a response asks a client to wait. Only the least of the seconds that the response announces
counts, and the delay reaches beyond it by the server's own clock.
-/

set_option autoImplicit false

namespace KeyBound.RateLimit

variable {headers : Headers}

/-! ## Announced seconds -/

/-- A text of decimal digits and the number that it stands for. -/
def IsNumeral (text : List Char) (n : Nat) : Prop :=
  text ≠ [] ∧ (∀ c ∈ text, c.isDigit = true) ∧ Nat.ofDigitChars 10 text 0 = n

/-- A number below `2 ^ 63` that stands among the entries of the header lines that are text. -/
def Announces (headers : Headers) (n : Nat) : Prop :=
  1 ≤ n ∧ n ≤ 9223372036854775807 ∧
    ∃ value ∈ headers.getAll "x-rate-limit-reset", ∃ line, value.chars? = some line ∧
      ∃ entry ∈ Text.splitAt ',' line, IsNumeral (Text.trim entry) n

theorem second?_eq_some_iff {entry : List Char} {n : Nat} :
    second? entry = some n ↔
      IsNumeral (Text.trim entry) n ∧ 1 ≤ n ∧ n ≤ 9223372036854775807 := by
  have numeral (text : List Char) :
      text.foldl (fun n c => n * 10 + (c.toNat - 48)) 0 = Nat.ofDigitChars 10 text 0 := by
    simp only [Nat.ofDigitChars, Nat.mul_comm]
    rfl
  have bound : greatestSecond = 9223372036854775807 := by decide
  simp only [second?, numeral, bound, IsNumeral, ne_eq, ← List.isEmpty_iff, ← List.all_eq_true]
  generalize Nat.ofDigitChars 10 (Text.trim entry) 0 = m
  cases (Text.trim entry).isEmpty <;> cases (Text.trim entry).all Char.isDigit <;> simp
  constructor
  · rintro ⟨inside, rfl⟩
    exact ⟨rfl, inside⟩
  · rintro ⟨rfl, inside⟩
    exact ⟨inside, rfl⟩

theorem mem_seconds_iff {n : Nat} : n ∈ seconds headers ↔ Announces headers n := by
  simp only [seconds, List.mem_flatMap, List.mem_filterMap, second?_eq_some_iff, Announces,
    resetHeader]
  constructor
  · rintro ⟨line, ⟨value, member, text⟩, entry, part, numeral, positive, bounded⟩
    exact ⟨positive, bounded, value, member, line, text, entry, part, numeral⟩
  · rintro ⟨positive, bounded, value, member, line, text, entry, part, numeral⟩
    exact ⟨line, ⟨value, member, text⟩, entry, part, numeral, positive, bounded⟩

theorem reset?_eq_some_iff {n : Nat} :
    reset? headers = some n ↔ IsLeast {n | Announces headers n} n := by
  simp only [reset?, List.min?_eq_some_iff, mem_seconds_iff]
  rfl

theorem reset?_eq_none_iff : reset? headers = none ↔ ∀ n, ¬ Announces headers n := by
  rw [reset?, List.min?_eq_none_iff, List.eq_nil_iff_forall_not_mem]
  simp only [mem_seconds_iff]

/-- Only the set of the announced seconds counts, not their order nor the lines that they are on. -/
theorem reset?_congr {other : Headers} (same : ∀ n, Announces other n ↔ Announces headers n) :
    reset? other = reset? headers := by
  apply Option.ext
  intro n
  have sets : {n | Announces other n} = {n | Announces headers n} := Set.ext same
  rw [reset?_eq_some_iff, reset?_eq_some_iff, sets]

/-! ## The date of the server -/

theorem trim_fixedText (unix : Int) :
    Text.trim (MailDate.fixedText unix) = MailDate.fixedText unix := by
  apply Text.stripWhere_of_isStripped
  unfold MailDate.fixedText
  constructor
  · intro c first
    dsimp only [MailDate.weekdayName] at first
    split at first <;> (cases first; decide)
  · intro c last
    simp only [List.getLast?_append, List.getLast?_cons] at last
    cases last
    exact (by decide : isBlank 'T' = false)

theorem serverDate?_of_fixedText {now : Int} (low : -2208988800 ≤ now) (high : now ≤ lastSecond)
    (date : headers.chars? "date" = some (MailDate.fixedText now)) :
    serverDate? headers = some ⟨now * nanosPerSecond, 0⟩ := by
  simp only [serverDate?, Option.bind_eq_bind, date, Option.bind_some, trim_fixedText]
  exact MailDate.parse?_fixedText low high

/-! ## Delays -/

theorem clock?_eq_some_iff {clock : Clock} :
    clock? headers = some clock ↔ ∃ least, IsLeast {n | Announces headers n} least ∧
      serverDate? headers = some clock.serverNow ∧
      Instant.ofSeconds? least = some clock.resetAt := by
  simp only [clock?, Option.bind_eq_bind, Option.bind_eq_some_iff, Option.some.injEq,
    ← reset?_eq_some_iff]
  constructor
  · rintro ⟨least, found, date, server, resetAt, made, rfl⟩
    exact ⟨least, found, server, made⟩
  · rintro ⟨least, found, server, made⟩
    exact ⟨least, found, clock.serverNow, server, clock.resetAt, made, rfl⟩

/-- A dated response has a clock up to the end of the calendar. -/
theorem clock?_ne_none_iff {date : MailDate} (server : serverDate? headers = some date) :
    clock? headers ≠ none ↔
      ∃ least, IsLeast {n | Announces headers n} least ∧ (least : Int) ≤ lastSecond := by
  rw [Option.ne_none_iff_exists']
  constructor
  · rintro ⟨clock, found⟩
    obtain ⟨least, isLeast, -, made⟩ := clock?_eq_some_iff.mp found
    refine ⟨least, isLeast, Int.not_lt.mp fun beyond => ?_⟩
    rw [Instant.ofSeconds?_eq_none_iff.mpr beyond] at made
    cases made
  · rintro ⟨least, isLeast, inside⟩
    cases made : Instant.ofSeconds? least with
    | none => exact absurd (Instant.ofSeconds?_eq_none_iff.mp made) (Int.not_lt.mpr inside)
    | some resetAt => exact ⟨⟨resetAt, date⟩, clock?_eq_some_iff.mpr ⟨least, isLeast, server, made⟩⟩

def int64? (n : Int) : Option Int :=
  if -9223372036854775808 ≤ n ∧ n ≤ 9223372036854775807 then some n else none

/-- The milliseconds of a delay, computed in signed integers of 64 bits, or none where a step of the
computation leaves them. -/
def Clock.millis? (clock : Clock) : Option Int := do
  let reset ← int64? (clock.resetAt.seconds * 1000)
  let now ← int64? clock.serverNow.millis
  let left ← int64? (reset - now)
  let padded ← int64? (left + margin)
  some (max padded margin)

theorem Clock.millis?_eq {clock : Clock} {reset now : Int} (low : -2208988800 ≤ now)
    (high : now ≤ lastSecond) (server : clock.serverNow = ⟨now * nanosPerSecond, 0⟩)
    (seconds : clock.resetAt.seconds = reset) (after1970 : 0 ≤ reset)
    (inside : reset ≤ lastSecond) :
    clock.millis = max ((reset - now) * 1000 + 1000) 1000 ∧ clock.millis? = some clock.millis := by
  have millis : clock.serverNow.millis = now * 1000 := by
    rw [server, MailDate.millis, show (nanosPerSecond : Int) = 1000 * nanosPerMilli by decide,
      ← Int.mul_assoc]
    exact Int.mul_tdiv_cancel _ (by decide)
  have holds {n : Int} (least : -9223372036854775808 ≤ n) (greatest : n ≤ 9223372036854775807) :
      int64? n = some n := if_pos ⟨least, greatest⟩
  simp only [lastSecond] at high inside
  have resetFits := holds (n := reset * 1000) (by omega) (by omega)
  have nowFits := holds (n := now * 1000) (by omega) (by omega)
  have leftFits := holds (n := reset * 1000 - now * 1000) (by omega) (by omega)
  have paddedFits := holds (n := reset * 1000 - now * 1000 + 1000) (by omega) (by omega)
  constructor
  · rw [Clock.millis, millis, seconds, margin]
    omega
  · simp only [Clock.millis?, Clock.millis, millis, seconds, margin, Option.bind_eq_bind,
      resetFits, nowFits, leftFits, paddedFits, Option.bind_some]

theorem millis_of_clock? {now : Int} (low : -2208988800 ≤ now) (high : now ≤ lastSecond)
    (server : serverDate? headers = some ⟨now * nanosPerSecond, 0⟩) {clock : Clock}
    (found : clock? headers = some clock) {least : Nat}
    (isLeast : IsLeast {n | Announces headers n} least) (inside : (least : Int) ≤ lastSecond) :
    clock.millis = max ((least - now) * 1000 + 1000) 1000 ∧
      clock.millis? = some clock.millis := by
  obtain ⟨same, sameLeast, serverNow, made⟩ := clock?_eq_some_iff.mp found
  obtain rfl := isLeast.unique sameLeast
  have dated : clock.serverNow = ⟨now * nanosPerSecond, 0⟩ :=
    Option.some.inj (serverNow.symm.trans server)
  exact Clock.millis?_eq low high dated (Instant.seconds_of_ofSeconds? made)
    (Int.natCast_nonneg least) inside

/-- The delay after a response that is dated in the years 1900 to 9999 is decided by the least
second that it announces. It is missing where that second is, or where it lies beyond the
calendar. -/
theorem delay?_of_fixedText {now : Int} (low : -2208988800 ≤ now) (high : now ≤ lastSecond)
    (date : headers.chars? "date" = some (MailDate.fixedText now)) :
    (delay? headers = none ↔ (∀ n, ¬ Announces headers n) ∨
      ∃ least, IsLeast {n | Announces headers n} least ∧ 253402300799 < least) ∧
    (∀ least, IsLeast {n | Announces headers n} least → least ≤ 253402300799 →
      ∃ millis : Int, millis = max ((least - now) * 1000 + 1000) 1000 ∧
        delay? headers = some (.ofMillis millis.toNat) ∧
        1000 ≤ millis ∧ least * 1000 < now * 1000 + millis) ∧
    (∀ clock, clock? headers = some clock → clock.millis? = some clock.millis) ∧
    ∀ other : Headers, other.chars? "date" = headers.chars? "date" →
      (∀ n, Announces other n ↔ Announces headers n) → delay? other = delay? headers := by
  have server := serverDate?_of_fixedText low high date
  have end9999 : lastSecond = 253402300799 := rfl
  refine ⟨?missing, ?exact, ?overflow, ?order⟩
  case missing =>
    rw [delay?, Option.map_eq_none_iff, ← not_iff_not, ← ne_eq, clock?_ne_none_iff server]
    constructor
    · rintro ⟨least, isLeast, inside⟩ (nothing | ⟨other, otherLeast, beyond⟩)
      · exact nothing least isLeast.1
      · obtain rfl := isLeast.unique otherLeast
        omega
    · intro present
      cases found : reset? headers with
      | none => exact absurd (.inl (reset?_eq_none_iff.mp found)) present
      | some least =>
          have isLeast := reset?_eq_some_iff.mp found
          have inside : ¬ 253402300799 < least := fun beyond =>
            present (.inr ⟨least, isLeast, beyond⟩)
          exact ⟨least, isLeast, by omega⟩
  case exact =>
    intro least isLeast inside
    obtain ⟨clock, found⟩ := Option.ne_none_iff_exists'.mp
      ((clock?_ne_none_iff server).mpr ⟨least, isLeast, by omega⟩)
    have millis := (millis_of_clock? low high server found isLeast (by omega)).1
    refine ⟨clock.millis, millis, ?_, ?_, ?_⟩
    · rw [delay?, found]
      rfl
    all_goals omega
  case overflow =>
    intro clock found
    obtain ⟨least, isLeast, inside⟩ :=
      (clock?_ne_none_iff server).mp (Option.ne_none_iff_exists'.mpr ⟨clock, found⟩)
    exact (millis_of_clock? low high server found isLeast inside).2
  case order =>
    intro other sameDate same
    rw [delay?, delay?, clock?, clock?, serverDate?, serverDate?, sameDate, reset?_congr same]

private def announcing : Headers :=
  [("x-rate-limit-reset", .ofAscii "1700000030, soon"),
    ("date", .ofAscii "Tue, 14 Nov 2023 22:13:20 GMT"),
    ("x-rate-limit-reset", .ofAscii "0,1700000010")]

theorem delay?_of_fixedText_announcing :
    announcing.chars? "date" = some (MailDate.fixedText 1700000000) ∧
      IsLeast {n | Announces announcing n} 1700000010 ∧
      delay? announcing = some (.ofMillis 11000) := by
  have date : announcing.chars? "date" = some (MailDate.fixedText 1700000000) := by decide +kernel
  have isLeast : IsLeast {n | Announces announcing n} 1700000010 :=
    reset?_eq_some_iff.mp (by decide +kernel)
  obtain ⟨_, exact, _⟩ := delay?_of_fixedText (by decide) (by decide) date
  obtain ⟨millis, rfl, delay, _⟩ := exact 1700000010 isLeast (by decide)
  exact ⟨date, isLeast, delay⟩

end KeyBound.RateLimit
