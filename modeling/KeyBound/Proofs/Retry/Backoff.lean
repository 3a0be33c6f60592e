import KeyBound.Proofs.Retry.Policy

/-!
# How delays double

The delay after an attempt beside one that doubles without end. Both are the same as long as the
factor fits 32 bits; from then on the delay stays what it is, which shows only where it is still
below its bound. That products are held in seconds of 64 bits makes no difference.
-/

set_option autoImplicit false

namespace KeyBound

namespace Delay

/-! ## Products of a fixed width -/

/-- The longest delay that a number of seconds of 64 bits and a part of a second make up. -/
def longest : Delay := ⟨Nat.pow 2 64 * nanosPerSecond - 1⟩

/-- A delay some times over, from its seconds and the rest of it apart. Where the seconds do not fit
64 bits it is the longest delay. -/
def timesHeld (a : Delay) (n : Nat) : Delay :=
  let rest := a.nanos % nanosPerSecond * n
  let seconds := a.nanos / nanosPerSecond * n + rest / nanosPerSecond
  if seconds < Nat.pow 2 64 then ⟨seconds * nanosPerSecond + rest % nanosPerSecond⟩ else longest

private theorem nanos_times (a : Delay) (n : Nat) :
    (a.times n).nanos =
      (a.nanos / nanosPerSecond * n + a.nanos % nanosPerSecond * n / nanosPerSecond) *
          nanosPerSecond +
        a.nanos % nanosPerSecond * n % nanosPerSecond := by
  calc a.nanos * n
      = (a.nanos / nanosPerSecond * nanosPerSecond + a.nanos % nanosPerSecond) * n := by
        rw [Nat.div_add_mod']
    _ = a.nanos / nanosPerSecond * n * nanosPerSecond + a.nanos % nanosPerSecond * n := by
        rw [Nat.add_mul, Nat.mul_right_comm]
    _ = a.nanos / nanosPerSecond * n * nanosPerSecond +
          (a.nanos % nanosPerSecond * n / nanosPerSecond * nanosPerSecond +
            a.nanos % nanosPerSecond * n % nanosPerSecond) := by
        rw [Nat.div_add_mod']
    _ = _ := by rw [← Nat.add_assoc, ← Nat.add_mul]

theorem timesHeld_eq (a : Delay) (n : Nat) : a.timesHeld n = (a.times n).atMost longest := by
  have exact := nanos_times a n
  have part : a.nanos % nanosPerSecond * n % nanosPerSecond < nanosPerSecond :=
    Nat.mod_lt _ (by decide)
  simp only [timesHeld, atMost, longest, exact]
  generalize a.nanos / nanosPerSecond * n + a.nanos % nanosPerSecond * n / nanosPerSecond = seconds
  generalize a.nanos % nanosPerSecond * n % nanosPerSecond = rest at part
  simp only [nanosPerSecond, Nat.pow_eq] at part ⊢
  split <;> exact congrArg Delay.mk (by omega)

/-- A product that is cut to a delay that can be held is the exact one cut to it. -/
theorem atMost_timesHeld {bound : Delay} (held : bound ≤ longest) (a : Delay) (n : Nat) :
    (a.timesHeld n).atMost bound = (a.times n).atMost bound := by
  have fits : bound.nanos ≤ longest.nanos := held
  rw [timesHeld_eq]
  exact congrArg Delay.mk (by simp only [atMost]; omega)

end Delay

namespace RetrySettings

variable {settings : RetrySettings} {attempt : Nat}

/-- The delay that doubles with every attempt, up to the greatest one. -/
def doubledDelay (settings : RetrySettings) (attempt : Nat) : Delay :=
  (settings.initialBackoff.times (Nat.pow 2 attempt)).atMost settings.maxBackoff

theorem backoffFactor_le_pow (attempt : Nat) : backoffFactor attempt ≤ Nat.pow 2 attempt := by
  unfold backoffFactor
  split
  · exact Nat.le_refl _
  · have wide : Nat.pow 2 32 ≤ Nat.pow 2 attempt :=
      Nat.pow_le_pow_right (by decide) (by omega)
    omega

theorem backoffDelay_le_doubledDelay (settings : RetrySettings) (attempt : Nat) :
    settings.backoffDelay attempt ≤ settings.doubledDelay attempt := by
  have products :=
    Nat.mul_le_mul_left settings.initialBackoff.nanos (backoffFactor_le_pow attempt)
  exact Nat.le_min.mpr ⟨Nat.le_trans (Nat.min_le_left _ _) products, Nat.min_le_right _ _⟩

theorem backoffDelay_of_lt (small : attempt < 32) :
    settings.backoffDelay attempt = settings.doubledDelay attempt := by
  simp only [backoffDelay, doubledDelay, backoffFactor, if_pos small]

/-- Once the factor has reached its bound, the delays agree where there is nothing to double and
where the greatest delay has been reached. -/
theorem backoffDelay_eq_doubledDelay_iff (large : 32 ≤ attempt) :
    settings.backoffDelay attempt = settings.doubledDelay attempt ↔
      settings.initialBackoff = .zero ∨
        settings.maxBackoff ≤ settings.initialBackoff.times (Nat.pow 2 32 - 1) := by
  have factor : Nat.pow 2 32 - 1 < Nat.pow 2 attempt :=
    Nat.lt_of_lt_of_le (by decide) (Nat.pow_le_pow_right (by decide) large)
  have factors : backoffFactor attempt = Nat.pow 2 32 - 1 := if_neg (Nat.not_lt.mpr large)
  have nothing : settings.initialBackoff = .zero ↔ settings.initialBackoff.nanos = 0 := by
    rw [Delay.zero, Delay.mk.injEq]
  have reached : settings.maxBackoff ≤ settings.initialBackoff.times (Nat.pow 2 32 - 1) ↔
      settings.maxBackoff.nanos ≤ settings.initialBackoff.nanos * (Nat.pow 2 32 - 1) := Iff.rfl
  rw [nothing, reached]
  simp only [backoffDelay, doubledDelay, factors, Delay.atMost, Delay.times, Delay.mk.injEq]
  rcases Nat.eq_zero_or_pos settings.initialBackoff.nanos with zero | positive
  · simp [zero]
  · have more := Nat.mul_lt_mul_of_pos_left factor positive
    omega

/-- The delay is the one that doubles exactly as long as 32 bits hold the factor, unless there is
nothing to double or the greatest delay has been reached by then. It is never longer than that and
never longer than the greatest delay, never shorter than after an earlier attempt, and from the
thirty-second attempt on it stays the same. -/
theorem backoffDelay_spec (settings : RetrySettings) (attempt : Nat) :
    (settings.backoffDelay attempt = settings.doubledDelay attempt ↔
      attempt < 32 ∨ settings.initialBackoff = .zero ∨
        settings.maxBackoff ≤ settings.initialBackoff.times (Nat.pow 2 32 - 1)) ∧
    settings.backoffDelay attempt ≤ settings.doubledDelay attempt ∧
    settings.backoffDelay attempt ≤ settings.maxBackoff ∧
    (∀ later, attempt ≤ later →
      settings.backoffDelay attempt ≤ settings.backoffDelay later ∧
      (32 ≤ attempt → settings.backoffDelay later = settings.backoffDelay attempt)) ∧
    (settings.maxBackoff ≤ .longest →
      (settings.initialBackoff.timesHeld (backoffFactor attempt)).atMost settings.maxBackoff =
        settings.backoffDelay attempt) := by
  refine ⟨?agrees, backoffDelay_le_doubledDelay settings attempt, Nat.min_le_right _ _,
    fun later ordered => ⟨backoffDelay_le ordered, fun large => ?stays⟩,
    fun held => Delay.atMost_timesHeld held _ _⟩
  case agrees =>
    by_cases small : attempt < 32
    · simp only [backoffDelay_of_lt small, small, true_or]
    · rw [backoffDelay_eq_doubledDelay_iff (Nat.not_lt.mp small)]
      exact (or_iff_right small).symm
  case stays =>
    have same : backoffFactor later = backoffFactor attempt := by
      rw [backoffFactor, backoffFactor, if_neg (by omega), if_neg (by omega)]
    rw [backoffDelay, backoffDelay, same]

end RetrySettings

end KeyBound
