import KeyBound.Proofs.Client.Cancellation
import KeyBound.Proofs.Client.Counters

/-!
# Calls with a limit of time

What a call does whose settings limit the time that it may take. The limit is for the beginning of
an attempt: none begins later, however long the attempts before it took, and a delay that would lead
beyond the limit is not begun.
-/

set_option autoImplicit false

namespace KeyBound.Pipeline

open Session

variable {env : Environment} {settings : RetrySettings} {target : Target} {request : Request}
  {session : Session} {budget began : Delay} {made : Attempt} {position : Nat}

theorem Attempt.isLate_iff (limited : settings.maxElapsed = some budget) :
    made.isLate settings began = true ↔
      budget < (made.finish.minus began).plus (made.delay settings) := by
  rw [isLate, isOverBudget, limited]
  exact decide_eq_true_iff

theorem Attempt.sum_le_of_not_isLate (limited : settings.maxElapsed = some budget)
    (within : made.isLate settings began = false) :
    (made.finish.minus began).plus (made.delay settings) ≤ budget :=
  Nat.not_lt.mp fun late => by
    rw [(isLate_iff limited).mpr late] at within
    cases within

/-- If another attempt is not late, it begins within the limit. -/
theorem Attempt.next_le_of_not_isLate (limited : settings.maxElapsed = some budget)
    (within : made.isLate settings began = false) : made.next settings ≤ began.plus budget := by
  have fits := sum_le_of_not_isLate limited within
  have short : ((made.delay settings).atMost .longestTimer).nanos ≤ (made.delay settings).nanos :=
    Nat.min_le_left _ _
  change made.finish.nanos - began.nanos + (made.delay settings).nanos ≤ budget.nanos at fits
  change made.finish.nanos + ((made.delay settings).atMost .longestTimer).nanos ≤
    began.nanos + budget.nanos
  omega

/-- An attempt of a call that is not the first one follows another one. -/
theorem run_start_le (limited : settings.maxElapsed = some budget) {start : Delay}
    (later : session.sent.length < position)
    (placed : (run env settings target request session).2.sentAt? position = some start) :
    start ≤ session.elapsed.plus budget := by
  obtain ⟨previous, rfl⟩ := Nat.exists_eq_add_of_lt later
  obtain ⟨entry, standing, _⟩ := Option.map_eq_some_iff.mp placed
  have inside := (List.getElem?_eq_some_iff.mp standing).1
  obtain ⟨made, _, _, _, within, next⟩ :=
    run_followed (Nat.le_add_right session.sent.length previous) inside
  obtain rfl : made.next settings = start := Option.some.inj (next.symm.trans placed)
  exact made.next_le_of_not_isLate limited within

/-- An attempt that the call does not go on after is the last one, and there is a retry for each
attempt before it. -/
theorem Attempt.IsOf.ends_call (of : made.IsOf env 1 session
      (run env settings target request session).2 position)
    (decides : made.Decides env settings request.method session.elapsed) :
    (run env settings target request session).1 = result made.reply.outcome ∧
      (run env settings target request session).2.elapsed = made.finish ∧
      (run env settings target request session).2.sent.length = position + 1 ∧
      (run env settings target request session).2.counter target.kind .retry =
        session.counter target.kind .retry + (position - session.sent.length) := by
  rcases of.last_or with last | ⟨allowed, within, _⟩
  · obtain ⟨same, ended⟩ :=
      (run_ending env settings target request session).of_decides of last decides
    refine ⟨same, ended, last.symm, ?_⟩
    obtain ⟨tally, counts, conserves⟩ := run_conserves env settings target request session
    obtain ⟨sent, grown, length⟩ := counts.sent
    have uncancelled : (run env settings target request session).1 ≠ .error .cancelled := by
      rw [same]
      cases made.reply.outcome <;> exact nofun
    have attempts := conserves.attempts_eq uncancelled
    have begun := of.begun
    rw [grown, List.length_append] at last
    rw [counts.own]
    omega
  · exact (decides.elim allowed within).elim

/-- With few retries and a limit that can be held, only the last attempt of a call can want a delay
that cannot be added to the time before it. -/
theorem run_inRange_of_last (countable : settings.maxRetries < Nat.pow 2 32 - 1)
    (limited : settings.maxElapsed = some budget) (held : budget ≤ .longest)
    (last : ∀ (made : Attempt) position,
      made.IsOf env 1 session (run env settings target request session).2 position →
      position + 1 = (run env settings target request session).2.sent.length →
      (made.finish.minus session.elapsed).plus (made.delay settings) ≤ .longest) :
    InRange env settings request.method session (run env settings target request session).2 where
  attempts := run_attempts_countable countable
  sums := by
    intro _ made position of _ _
    rcases of.last_or with ended | ⟨_, within, _⟩
    · exact last made position of ended
    · exact Nat.le_trans (Attempt.sum_le_of_not_isLate limited within) held

private def busyTwice : Script where
  replies := [1, 2, 3].map fun n => ⟨.ofMillis 100, .ok ⟨503, [], [n]⟩⟩
  tokenReplies := none

private def impatient : RetrySettings :=
  { RetrySettings.standard with maxElapsed := some (.ofMillis 1000) }

private def urgent : Request := .plain "GET" (.sample ["api"])

private def impatientCall : Except Error Response × Session :=
  run (.ofScript busyTwice) impatient .resource urgent (.start ⟨0⟩)

end KeyBound.Pipeline
