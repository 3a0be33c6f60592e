import KeyBound.Retry.Policy

/-!
# When a request is sent again

The conditions under which the policy lets a request be sent again after an attempt.
-/

set_option autoImplicit false

namespace KeyBound.RetrySettings

theorem shouldRetry_eq_true_iff {settings : RetrySettings} {attempt : Nat} {outcome : Outcome}
    {idempotent cancelled : Bool} :
    settings.shouldRetry attempt outcome idempotent cancelled = true ↔
      cancelled = false ∧ attempt ≤ settings.maxRetries ∧
        match outcome with
        | .error failure => failure.kind ∉ settings.nonRetriableKinds ∧ idempotent = true
        | .ok response => response.status ∈ settings.retriableStatuses := by
  unfold shouldRetry
  cases cancelled with
  | true => simp
  | false =>
      by_cases spent : settings.maxRetries < attempt
      · simp [spent, Nat.not_le.mpr spent]
      · cases outcome <;> simp [spent, Nat.not_lt.mp spent]

theorem isIdempotent_eq_true_iff {settings : RetrySettings} {method : String}
    {requestSent : Bool} :
    settings.isIdempotent method requestSent = true ↔
      settings.idempotency = .always ∨
        settings.idempotency = .safeMethodsOrUnsent ∧
          (requestSent = false ∨ method ∈ repeatableMethods) := by
  unfold isIdempotent
  cases settings.idempotency <;> simp

theorem backoffFactor_le {first second : Nat} (ordered : first ≤ second) :
    backoffFactor first ≤ backoffFactor second := by
  unfold backoffFactor
  split
  · rename_i small
    split
    · exact Nat.pow_le_pow_right (by decide) ordered
    · calc 2 ^ first ≤ 2 ^ 31 := Nat.pow_le_pow_right (by decide) (by omega)
        _ ≤ 2 ^ 32 - 1 := by decide
  · have large : ¬ second < 32 := by omega
    simp [large]

/-- The delay after an attempt is never shorter than after an earlier one. -/
theorem backoffDelay_le {settings : RetrySettings} {first second : Nat}
    (ordered : first ≤ second) :
    settings.backoffDelay first ≤ settings.backoffDelay second := by
  have factors := Nat.mul_le_mul_left settings.initialBackoff.nanos (backoffFactor_le ordered)
  exact Nat.le_min.mpr ⟨Nat.le_trans (Nat.min_le_left _ _) factors, Nat.min_le_right _ _⟩

end KeyBound.RetrySettings
