import KeyBound.Proofs.Client.Course
import Mathlib.Order.Bounds.Defs

/-!
# Retries of a call

How many attempts a call makes, when, and how it ends, if it is answered by a script.
-/

set_option autoImplicit false

/-- A server answers what is sent after a session with the replies of a script in order, whatever
the requests are. The first reply has the number one. -/
def KeyBound.Environment.AnswersWith (env : Environment) (r : Nat → Reply) (session : Session) :
    Prop :=
  ∀ further next, env.respond (session.sent.map (·.2) ++ further) next = r (further.length + 1)

namespace KeyBound.Pipeline

variable {env : Environment} {settings : RetrySettings} {target : Target} {request : Request}
  {session : Session}

/-! ## Calls that are answered by a script -/

/-- A script answers the request at a position of a call with the entry of that position. -/
private theorem reply?_of_script {r : Nat → Reply} {final : Session}
    (script : env.AnswersWith r session) (earlier : session.sent <+: final.sent)
    {number : Nat} (inside : session.sent.length + number < final.sent.length) :
    final.reply? env (session.sent.length + number) = some (r (number + 1)) := by
  obtain ⟨rest, whole⟩ := earlier
  rw [← whole, List.length_append, Nat.add_lt_add_iff_left] at inside
  rw [Session.reply?, ← whole, List.getElem?_append_right (Nat.le_add_right _ _),
    Nat.add_sub_cancel_left, List.getElem?_eq_getElem inside, Option.map_some,
    List.take_length_add_append, List.map_append, script, List.length_map, List.length_take,
    Nat.min_eq_left (Nat.le_of_lt inside)]

/-- The attempts of a call are numbered like the entries of its script. -/
private theorem reply_of_script {r : Nat → Reply} (script : env.AnswersWith r session)
    {made : Attempt} {number : Nat}
    (inside : session.sent.length + number <
      (run env settings target request session).2.sent.length)
    (numbered : made.number = 1 + (session.sent.length + number - session.sent.length))
    (placed : made.IsAt env (run env settings target request session).2
      (session.sent.length + number)) :
    made.number = number + 1 ∧ made.reply = r (number + 1) := by
  have expected := reply?_of_script script (run_sent_grows env settings target request session)
    inside
  rw [placed.reply] at expected
  exact ⟨by omega, Option.some.inj expected⟩

private theorem script_followed {r : Nat → Reply} (script : env.AnswersWith r session)
    {number : Nat}
    (more : session.sent.length + number + 1 <
      (run env settings target request session).2.sent.length) :
    goesOn settings request.method (number + 1) (r (number + 1)).outcome = true ∧
      ∃ start, (run env settings target request session).2.sentAt?
          (session.sent.length + number) = some start ∧
        (run env settings target request session).2.sentAt? (session.sent.length + number + 1) =
          some ((start.plus ((r (number + 1)).delay.atMost .longestTimer)).plus
            ((settings.retryDelay (number + 1) (r (number + 1)).outcome).atMost
              .longestTimer)) := by
  obtain ⟨made, numbered, placed, allowed, _, next⟩ :=
    run_followed (Nat.le_add_right session.sent.length number) more
  have same := reply_of_script script (Nat.lt_of_succ_lt more) numbered placed
  obtain ⟨_, start, _⟩ := made
  obtain ⟨rfl, rfl⟩ := same
  exact ⟨allowed, start, placed.start, next⟩

private theorem script_ended {r : Nat → Reply} (uncancelled : env.cancelAt = none)
    (unbounded : settings.maxElapsed = none) (script : env.AnswersWith r session) :
    ∃ number last,
      (run env settings target request session).2.sent.length =
        session.sent.length + (number + 1) ∧
      (run env settings target request session).2.sentAt? (session.sent.length + number) =
        some last ∧
      (run env settings target request session).2.elapsed =
        last.plus ((r (number + 1)).delay.atMost .longestTimer) ∧
      (run env settings target request session).1 = result (r (number + 1)).outcome ∧
      goesOn settings request.method (number + 1) (r (number + 1)).outcome = false := by
  obtain ⟨position, made, begun, length, numbered, placed, answer, reached, stopped⟩ :=
    run_ended uncancelled settings target request session
  obtain ⟨number, rfl⟩ := Nat.exists_eq_add_of_le begun
  have same := reply_of_script script (by omega) numbered placed
  obtain ⟨_, last, _⟩ := made
  obtain ⟨rfl, rfl⟩ := same
  refine ⟨number, last, length, placed.start, reached, answer, ?_⟩
  rcases stopped with stopped | late
  · exact stopped
  · rw [Attempt.isLate, isOverBudget, unbounded] at late
    cases late

theorem goesOn_of_spent {method : String} {attempt : Nat} (outcome : Outcome)
    (spent : settings.maxRetries < attempt) : goesOn settings method attempt outcome = false := by
  simp [goesOn, RetrySettings.shouldRetry, spent]

/-- A call that is never cancelled and has no limit of time takes the entries of a script in order,
one for each attempt, until the first one after which the policy has no request sent again. It ends
with that one. Between two attempts it waits as long as the policy says, but no longer than the
longest timer runs. The number of the last attempt has 32 bits. -/
theorem run_of_script {r : Nat → Reply} (countable : settings.maxRetries < Nat.pow 2 32 - 1)
    (uncancelled : env.cancelAt = none) (unbounded : settings.maxElapsed = none)
    (script : env.AnswersWith r session) :
    let call := run env settings target request session
    ∃ (k : Nat) (start : Nat → Delay),
      IsLeast {i | 1 ≤ i ∧ (settings.maxRetries < i ∨
        settings.shouldRetry i (r i).outcome
          (settings.isIdempotent request.method (wasSent (r i).outcome)) false = false)} k ∧
      k ≤ settings.maxRetries + 1 ∧ k < Nat.pow 2 32 ∧
      session.sent <+: call.2.sent ∧ call.2.sent.length = session.sent.length + k ∧
      (∀ i < k, call.2.reply? env (session.sent.length + i) = some (r (i + 1)) ∧
        call.2.sentAt? (session.sent.length + i) = some (start (i + 1))) ∧
      start 1 = session.elapsed ∧
      (∀ i, 1 ≤ i → i < k → start (i + 1) =
        ((start i).plus ((r i).delay.atMost .longestTimer)).plus
          ((settings.retryDelay i (r i).outcome).atMost .longestTimer)) ∧
      call.2.elapsed = (start k).plus ((r k).delay.atMost .longestTimer) ∧
      call.1 = result (r k).outcome := by
  intro call
  have earlier : session.sent <+: call.2.sent :=
    run_sent_grows env settings target request session
  obtain ⟨number, last, length, lastAt, reached, answer, stopped⟩ :
      ∃ number last, call.2.sent.length = session.sent.length + (number + 1) ∧ _ :=
    script_ended uncancelled unbounded script
  -- The last attempt has the number `number + 1`; those before it are known by what followed them.
  let start (i : Nat) : Delay := (call.2.sentAt? (session.sent.length + (i - 1))).getD .zero
  have lastNamed : start (number + 1) = last := congrArg (·.getD .zero) lastAt
  have follows : ∀ i, i < number →
      goesOn settings request.method (i + 1) (r (i + 1)).outcome = true ∧
        call.2.sentAt? (session.sent.length + i) = some (start (i + 1)) ∧
        start (i + 2) = ((start (i + 1)).plus ((r (i + 1)).delay.atMost .longestTimer)).plus
          ((settings.retryDelay (i + 1) (r (i + 1)).outcome).atMost .longestTimer) := by
    intro i early
    have more : session.sent.length + i + 1 < call.2.sent.length := by omega
    obtain ⟨allowed, begun, startAt, next⟩ := script_followed script more
    have named : start (i + 1) = begun := congrArg (·.getD .zero) startAt
    have follower : start (i + 2) = _ := congrArg (·.getD .zero) next
    refine ⟨allowed, ?_, ?_⟩
    · rw [named]
      exact startAt
    · rw [named, follower]
      rfl
  have least : IsLeast {i | 1 ≤ i ∧ (settings.maxRetries < i ∨
      goesOn settings request.method i (r i).outcome = false)} (number + 1) := by
    refine ⟨⟨Nat.le_add_left _ _, .inr stopped⟩, ?_⟩
    rintro i ⟨positive, stop⟩
    obtain ⟨j, rfl⟩ := Nat.exists_eq_add_of_le' positive
    refine Nat.le_of_not_lt fun early => ?_
    have allowed := (follows j (Nat.lt_of_succ_lt_succ early)).1
    rcases stop with spent | refused
    · rw [goesOn_of_spent _ spent] at allowed
      cases allowed
    · rw [refused] at allowed
      cases allowed
  have few : number + 1 ≤ settings.maxRetries + 1 :=
    least.2 ⟨Nat.le_add_left _ _, .inl (Nat.lt_succ_self _)⟩
  refine ⟨number + 1, start, least, few, ?_, earlier, length, ?_, ?_, ?_, ?_, answer⟩
  · exact Nat.lt_of_le_of_lt few (Nat.add_lt_of_lt_sub countable)
  · intro i inside
    refine ⟨reply?_of_script script earlier (by omega), ?_⟩
    rcases Nat.eq_or_lt_of_le (Nat.le_of_lt_succ inside) with rfl | early
    · rw [lastNamed]
      exact lastAt
    · exact (follows i early).2.1
  · exact congrArg (·.getD .zero) (run_sentAt?_first (by omega : _ < call.2.sent.length))
  · intro i positive early
    obtain ⟨j, rfl⟩ := Nat.exists_eq_add_of_le' positive
    exact (follows j (Nat.lt_of_succ_lt_succ early)).2.2
  · rw [lastNamed]
    exact reached

private def busyOnce : Script :=
  ⟨[⟨.zero, .ok ⟨503, [], []⟩⟩, ⟨.zero, .ok ⟨200, [], []⟩⟩], none⟩

private def busyOnceEnvironment : Environment := .ofScript busyOnce

private def lookUp : Request :=
  .plain "GET" ⟨"https".toList, [], [], some (.domain "acme.okta.com".toList), none,
    .segments [[]], none, none⟩

theorem run_busyOnce :
    let call := run busyOnceEnvironment .standard .resource lookUp (.start ⟨0⟩)
    call.2.sent.length = 2 ∧ call.2.sentAt? 1 = some (.ofMillis 600) ∧
      call.1 = .ok ⟨200, [], []⟩ := by
  intro call
  let r (i : Nat) : Reply := (busyOnce.replies[i - 1]?).getD Script.exhausted
  have script : busyOnceEnvironment.AnswersWith r (.start ⟨0⟩) := fun further next =>
    Script.respond_of_common rfl further next
  obtain ⟨k, start, least, _, _, _, length, made, first, later, _, answer⟩ :=
    @run_of_script busyOnceEnvironment .standard .resource lookUp (.start ⟨0⟩) r (by decide) rfl rfl
      script
  have two : k ≤ 2 := least.2 ⟨by decide, .inr (by decide)⟩
  have notOne : k ≠ 1 := by
    rintro rfl
    rcases least.1.2 with spent | refused
    · revert spent
      decide
    · revert refused
      decide
  obtain rfl : k = 2 := by
    have positive := least.1.1
    omega
  have second : call.2.sentAt? 1 = some (start 2) := (made 1 (by omega)).2
  refine ⟨length, ?_, answer⟩
  rw [second, later 1 (by omega) (by omega), first]
  decide

private def slow : RetrySettings :=
  { RetrySettings.standard with
    initialBackoff := .ofMillis 2000000000000
    maxBackoff := .ofMillis 1000000000000000 }

/-- A timer runs for thirty years at most, so a longer delay is cut short. -/
theorem run_slow :
    let final := (run busyOnceEnvironment slow .resource lookUp (.start ⟨0⟩)).2
    slow.maxRetries < Nat.pow 2 32 - 1 ∧ slow.maxElapsed = none ∧
      final.sentAt? 0 = some .zero ∧
      final.reply? busyOnceEnvironment 0 = some ⟨.zero, .ok ⟨503, [], []⟩⟩ ∧
      slow.retryDelay 1 (.ok ⟨503, [], []⟩) = .ofMillis 4000000000000 ∧
      final.sentAt? 1 = some (.ofMillis 946080000000) :=
  ⟨by decide, rfl, rfl, rfl, rfl, rfl⟩

end KeyBound.Pipeline
