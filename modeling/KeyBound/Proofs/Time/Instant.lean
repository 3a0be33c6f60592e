import KeyBound.Time.Instant

/-!
# Instants

When an instant exists, how far it lies from another one, and in which second.
-/

set_option autoImplicit false

namespace KeyBound

theorem inCalendar_zero : inCalendar 0 := by decide

namespace Instant

theorem ofNanos?_eq_some_iff {nanos : Int} {instant : Instant} :
    ofNanos? nanos = some instant ↔ instant.nanos = nanos := by
  unfold ofNanos?
  constructor
  · intro made
    split at made
    · cases made
      rfl
    · cases made
  · rintro rfl
    rw [dif_pos instant.valid]

theorem ofNanos?_eq_none_iff {nanos : Int} : ofNanos? nanos = none ↔ ¬ inCalendar nanos := by
  unfold ofNanos?
  split <;> simp [*]

theorem add?_nanos {instant later : Instant} {span : Span}
    (added : instant.add? span = some later) : later.nanos = instant.nanos + span.nanos :=
  ofNanos?_eq_some_iff.mp added

theorem add?_eq_none_iff {t : Instant} {span : Span} :
    t.add? span = none ↔ ¬ inCalendar (t.nanos + span.nanos) :=
  ofNanos?_eq_none_iff

theorem seconds_le_nanos (instant : Instant) :
    instant.seconds * nanosPerSecond ≤ instant.nanos ∧
      instant.nanos < (instant.seconds + 1) * nanosPerSecond := by
  simp only [seconds, nanosPerSecond]
  rw [Int.fdiv_eq_ediv_of_nonneg _ (by decide)]
  omega

/-- A second since 1970 is an instant up to the end of the calendar. -/
theorem ofSeconds?_eq_none_iff {n : Nat} : ofSeconds? n = none ↔ lastSecond < n := by
  rw [ofSeconds?, ofNanos?_eq_none_iff]
  simp only [inCalendar, firstSecond, lastSecond, nanosPerSecond]
  omega

theorem seconds_of_ofSeconds? {n : Int} {instant : Instant} (made : ofSeconds? n = some instant) :
    instant.seconds = n := by
  have nanos : instant.nanos = n * nanosPerSecond := ofNanos?_eq_some_iff.mp made
  have second := instant.seconds_le_nanos
  simp only [nanos, nanosPerSecond] at second
  omega

end Instant

end KeyBound
