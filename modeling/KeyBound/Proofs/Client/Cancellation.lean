import KeyBound.Proofs.Client.Requests
import KeyBound.Proofs.Client.Undisturbed
import KeyBound.Proofs.Retry.Backoff

/-!
# Cancelled calls

How a call ends if it is cancelled at some time. It is cancelled before it begins, while a request
is under way, or during a delay, and ends then and there; or else an attempt has decided it before,
and the call ends with the outcome of that attempt.
-/

set_option autoImplicit false

namespace KeyBound

open Session

namespace Pipeline

variable {env : Environment} {settings : RetrySettings} {target : Target} {request : Request}
  {began : Delay} {attempt : Nat} {retryFor : Option HeaderValue} {session after : Session}
  {outcome : Outcome} {moment : Delay}

/-! ## One attempt -/

/-- An attempt with an outcome, as the requests that were sent show it, is over before the
cancellation. -/
theorem attempt_of_uncancelled
    (attempted : attemptOnce env settings target request attempt retryFor session =
      (some outcome, after)) :
    ∃ made : Attempt, made.number = attempt ∧ made.reply.outcome = outcome ∧
      made.IsAt env after session.sent.length ∧ after.sent.length = session.sent.length + 1 ∧
      after.elapsed = made.finish ∧ after.isCancelled env = false := by
  obtain ⟨made, number, _, same, placed, one, _, reached⟩ := attempt_of_some attempted
  refine ⟨made, number, same, placed, one, reached, ?_⟩
  unfold attemptOnce at attempted
  split at attempted
  · cases attempted
  · exact exchange_uncancelled attempted

/-- An attempt without an outcome comes too late to send a request, or its request is under way at
the cancellation. -/
theorem attemptOnce_cut
    (cut : attemptOnce env settings target request attempt retryFor session = (none, after)) :
    ∃ moment, env.cancelAt = some moment ∧
      ((moment ≤ session.elapsed ∧ after = session) ∨
        ∃ made : Attempt, made.number = attempt ∧ made.start = session.elapsed ∧
          made.IsAt env after session.sent.length ∧
          after.sent.length = session.sent.length + 1 ∧ session.elapsed < moment ∧
          moment ≤ made.finish ∧ after.elapsed = moment) := by
  unfold attemptOnce at cut
  split at cut
  · rename_i cancelled
    cases cut
    unfold isCancelled at cancelled
    split at cancelled
    · rename_i moment planned
      exact ⟨moment, planned, .inl ⟨of_decide_eq_true cancelled, rfl⟩⟩
    · cases cancelled
  · rename_i uncancelled
    obtain ⟨moment, planned, due, ended⟩ := exchange_cut cut
    have before := isCancelled_eq_false_iff.mp (Bool.eq_false_iff.mpr uncancelled) moment planned
    let prepared := (session.prepare env target (tagged settings attempt retryFor request)).1
    have one : after.sent = session.sent ++ [(session.elapsed, prepared)] := by
      rw [ended]
      rfl
    let made : Attempt :=
      ⟨attempt, session.elapsed, env.respond (session.sent.map fun entry => entry.2) prepared⟩
    have placed : made.IsAt env after session.sent.length :=
      ⟨sentAt?_of_append one, reply?_of_append one⟩
    have due : moment ≤ made.finish := due
    refine ⟨moment, planned, .inr ⟨made, rfl, rfl, placed, ?_, before, due, ?_⟩⟩
    · rw [one, List.length_append, List.length_singleton]
    · rw [ended]
      exact congrArg Delay.mk (Nat.max_eq_right (Nat.le_of_lt before))

/-! ## The attempts of a call -/

/-- An attempt is one of those that a call makes from some number on, by its position. -/
structure Attempt.IsOf (made : Attempt) (env : Environment) (first : Nat) (session final : Session)
    (position : Nat) : Prop extends made.IsAt env final position where
  begun : session.sent.length ≤ position
  number : made.number = first + (position - session.sent.length)

/-- A call stops after an attempt, whose outcome is there before any cancellation. -/
structure Attempt.Decides (made : Attempt) (env : Environment) (settings : RetrySettings)
    (method : String) (began : Delay) : Prop where
  stops : made.goesOn settings method = false ∨ made.isLate settings began = true
  timely : ∀ moment, env.cancelAt = some moment → made.finish < moment

theorem Attempt.Decides.elim {made : Attempt} {method : String}
    (decides : made.Decides env settings method began)
    (allowed : made.goesOn settings method = true) (within : made.isLate settings began = false) :
    False := by
  rcases decides.stops with stopped | late
  · rw [allowed] at stopped
    cases stopped
  · rw [within] at late
    cases late

/-- The numbers of a call can be held. Its attempts are counted in 32 bits. Where the call has a
limit of time and the policy would have a request sent again, the delay is added to the time that
the call has taken, and the sum is no longer than the longest delay. -/
structure InRange (env : Environment) (settings : RetrySettings) (method : String)
    (session final : Session) : Prop where
  attempts : final.sent.length < session.sent.length + Nat.pow 2 32
  sums : settings.maxElapsed ≠ none → ∀ (made : Attempt) (position : Nat),
    made.IsOf env 1 session final position →
    (∀ moment, env.cancelAt = some moment → made.finish < moment) →
    made.goesOn settings method = true →
    (made.finish.minus session.elapsed).plus (made.delay settings) ≤ .longest

/-- How a call ends from some attempt on: it is decided by its last attempt, or it is cancelled
before there is one, while the last one is under way, or during the delay after the last one. -/
inductive Ending (env : Environment) (settings : RetrySettings) (method : String) (began : Delay)
    (first : Nat) (session final : Session) : Except Error Response → Prop where
  | decided {position : Nat} {made : Attempt} :
      made.IsOf env first session final position → position + 1 = final.sent.length →
      made.Decides env settings method began → final.elapsed = made.finish →
      Ending env settings method began first session final (result made.reply.outcome)
  | early {moment : Delay} :
      env.cancelAt = some moment → final.sent.length = session.sent.length →
      moment ≤ session.elapsed → final.elapsed = session.elapsed →
      Ending env settings method began first session final (.error .cancelled)
  | underWay {position : Nat} {made : Attempt} {moment : Delay} :
      env.cancelAt = some moment → made.IsOf env first session final position →
      position + 1 = final.sent.length → moment ≤ made.finish → final.elapsed = moment →
      Ending env settings method began first session final (.error .cancelled)
  | waiting {position : Nat} {made : Attempt} {moment : Delay} :
      env.cancelAt = some moment → made.IsOf env first session final position →
      position + 1 = final.sent.length → made.goesOn settings method = true →
      made.isLate settings began = false → moment ≤ made.next settings → final.elapsed = moment →
      Ending env settings method began first session final (.error .cancelled)

theorem Attempt.IsOf.of_later {made : Attempt} {number position : Nat} {later final : Session}
    (of : made.IsOf env (number + 1) later final position)
    (one : later.sent.length = session.sent.length + 1) :
    made.IsOf env number session final position where
  start := of.start
  reply := of.reply
  begun := by
    have begun := of.begun
    omega
  number := by
    have begun := of.begun
    have number := of.number
    omega

theorem Course.ending {answer : Except Error Response} {final : Session}
    (course : Course env settings target request began attempt retryFor session answer final) :
    Ending env settings request.method began attempt session final answer := by
  induction course with
  | @cancelled attempt _ session after attempted =>
      obtain ⟨moment, planned, ⟨due, rfl⟩ | ⟨made, rfl, _, placed, one, _, due, reached⟩⟩ :=
        attemptOnce_cut attempted
      · exact .early planned rfl due rfl
      · refine .underWay planned ⟨placed, Nat.le_refl _, ?_⟩ one.symm due reached
        omega
  | @final attempt _ session after outcome attempted stopped =>
      obtain ⟨made, rfl, rfl, placed, one, reached, uncancelled⟩ := attempt_of_uncancelled attempted
      rw [uncancelled] at stopped
      rw [isCancelled_eq_false_iff, reached] at uncancelled
      refine .decided ⟨placed, Nat.le_refl _, by omega⟩ one.symm ⟨.inl ?_, uncancelled⟩ reached
      simpa [delay?, Attempt.goesOn, goesOn] using stopped
  | @overBudget attempt _ session after outcome _ attempted chosen exceeded =>
      obtain ⟨_, rfl⟩ := goesOn_of_delay? chosen
      obtain ⟨made, rfl, rfl, placed, one, reached, uncancelled⟩ := attempt_of_uncancelled attempted
      rw [isCancelled_eq_false_iff, reached] at uncancelled
      rw [reached] at exceeded
      exact .decided ⟨placed.of_sent rfl, Nat.le_refl _, by omega⟩ one.symm
        ⟨.inr exceeded, uncancelled⟩ reached
  | @interrupted attempt _ session after later outcome _ attempted chosen within waited =>
      obtain ⟨allowed, rfl⟩ := goesOn_of_delay? chosen
      obtain ⟨made, rfl, rfl, placed, one, reached, uncancelled⟩ := attempt_of_uncancelled attempted
      rw [isCancelled_eq_false_iff] at uncancelled
      obtain ⟨moment, planned, due, rfl⟩ := wait_cut waited
      rw [deadline, tell_elapsed, tell_elapsed, reached] at due
      rw [reached] at within
      refine .waiting planned ⟨placed.of_sent rfl, Nat.le_refl _, by omega⟩ one.symm allowed within
        due ?_
      exact congrArg Delay.mk (Nat.max_eq_right (Nat.le_of_lt (uncancelled moment planned)))
  | again attempted chosen within waited rest ih =>
      obtain ⟨made, rfl, rfl, _, one, _, _⟩ := attempt_of_uncancelled attempted
      obtain ⟨sent, _⟩ := passed_of_wait waited
      rw [tell_sent, tell_sent] at sent
      rw [← sent] at one
      cases ih with
      | decided of last decides ended => exact .decided (of.of_later one) last decides ended
      | early planned _ due _ =>
          -- A delay that has passed ends before the cancellation.
          have before := isCancelled_eq_false_iff.mp (wait_uncancelled waited) _ planned
          exact absurd due (Nat.not_le.mpr before)
      | underWay planned of last due ended =>
          exact .underWay planned (of.of_later one) last due ended
      | waiting planned of last allowed within due ended =>
          exact .waiting planned (of.of_later one) last allowed within due ended

/-! ## Whole calls -/

theorem run_ending (env : Environment) (settings : RetrySettings) (target : Target)
    (request : Request) (session : Session) :
    Ending env settings request.method session.elapsed 1 session
      (run env settings target request session).2 (run env settings target request session).1 := by
  obtain ⟨final, told, whole, course⟩ := run_course env settings target request session
  have same {made : Attempt} {position : Nat}
      (of : made.IsOf env 1 (session.tell [.span target.kind .pipeline]) final position) :
      made.IsOf env 1 session (final.tell told) position :=
    ⟨of.toIsAt.of_sent rfl, of.begun, of.number⟩
  rw [whole]
  generalize (run env settings target request session).1 = answer at course ⊢
  cases course.ending with
  | decided of last decides ended => exact .decided (same of) last decides ended
  | early planned none due ended => exact .early planned none due ended
  | underWay planned of last due ended => exact .underWay planned (same of) last due ended
  | waiting planned of last allowed within due ended =>
      exact .waiting planned (same of) last allowed within due ended

/-- From one session to a later one, no request was sent at the cancellation or after it. -/
def SendsInTime (env : Environment) (session later : Session) : Prop :=
  ∃ sent, later.sent = session.sent ++ sent ∧
    ∀ entry ∈ sent, ∀ moment, env.cancelAt = some moment → entry.1 < moment

theorem SendsInTime.of_sent {later : Session} (same : later.sent = session.sent) :
    SendsInTime env session later :=
  ⟨[], same.trans (List.append_nil _).symm, nofun⟩

theorem parts_sendsInTime (env : Environment) (settings : RetrySettings) (target : Target)
    (request : Request) : Parts env settings target request (SendsInTime env) where
  refl _ := .of_sent rfl
  trans := by
    rintro first second third ⟨sent, grown, early⟩ ⟨more, grownAgain, earlyToo⟩
    refine ⟨sent ++ more, by rw [grownAgain, grown, List.append_assoc], ?_⟩
    exact List.forall_mem_append.mpr ⟨early, earlyToo⟩
  told _ _ _ := .of_sent rfl
  waited session delay := .of_sent (wait_sent env delay session)
  attempted session attempt retryFor := by
    unfold attemptOnce
    split
    · exact .of_sent rfl
    · rename_i uncancelled
      let prepared := (session.prepare env target (tagged settings attempt retryFor request)).1
      refine ⟨[(session.elapsed, prepared)], ?_, List.forall_mem_singleton.mpr ?_⟩
      · simp only [exchange, wait_sent, tell_sent, prepare_sent, tell_elapsed, prepare_elapsed,
          prepared]
      · exact isCancelled_eq_false_iff.mp (Bool.eq_false_iff.mpr uncancelled)

theorem run_sendsInTime {position : Nat} {start : Delay} (begun : session.sent.length ≤ position)
    (placed : (run env settings target request session).2.sentAt? position = some start)
    (planned : env.cancelAt = some moment) : start < moment := by
  obtain ⟨sent, grown, early⟩ := (parts_sendsInTime env settings target request).of_run session
  obtain ⟨entry, standing, rfl⟩ := Option.map_eq_some_iff.mp placed
  rw [grown, tell_sent, List.getElem?_append_right begun] at standing
  exact early entry (List.mem_of_getElem? standing) moment planned

section

variable {made other : Attempt} {position : Nat} {final : Session} {method : String}
  {answer : Except Error Response}

theorem Attempt.IsOf.unique {first : Nat} (of : made.IsOf env first session final position)
    (ofToo : other.IsOf env first session final position) : other = made := by
  obtain ⟨number, start, reply⟩ := made
  obtain ⟨numberToo, startToo, replyToo⟩ := other
  cases of.number.trans ofToo.number.symm
  cases of.start.symm.trans ofToo.start
  cases of.reply.symm.trans ofToo.reply
  rfl

/-- An attempt of a call is the last one, or the call goes on after it in time. -/
theorem Attempt.IsOf.last_or (of : made.IsOf env 1 session
      (run env settings target request session).2 position) :
    position + 1 = (run env settings target request session).2.sent.length ∨
      made.goesOn settings request.method = true ∧ made.isLate settings session.elapsed = false ∧
        (run env settings target request session).2.sentAt? (position + 1) =
          some (made.next settings) := by
  have inside := lt_of_reply? of.reply
  rcases Nat.eq_or_lt_of_le (Nat.succ_le_of_lt inside) with last | more
  · exact .inl last
  · obtain ⟨other, number, placed, facts⟩ := run_followed of.begun more
    obtain rfl := of.unique ⟨placed, of.begun, number⟩
    exact .inr facts

theorem Ending.of_decides
    (ending : Ending env settings method began 1 session final answer)
    (of : made.IsOf env 1 session final position) (last : position + 1 = final.sent.length)
    (decides : made.Decides env settings method began) :
    answer = result made.reply.outcome ∧ final.elapsed = made.finish := by
  cases ending with
  | @decided positionToo _ ofToo lastToo _ ended =>
      obtain rfl : position = positionToo := by omega
      obtain rfl := of.unique ofToo
      exact ⟨rfl, ended⟩
  | early _ none _ _ =>
      have begun := of.begun
      omega
  | @underWay positionToo _ moment planned ofToo lastToo due _ =>
      obtain rfl : position = positionToo := by omega
      obtain rfl := of.unique ofToo
      exact absurd due (Nat.not_le.mpr (decides.timely moment planned))
  | @waiting positionToo _ _ _ ofToo lastToo allowed within _ _ =>
      obtain rfl : position = positionToo := by omega
      obtain rfl := of.unique ofToo
      exact (decides.elim allowed within).elim

/-- A call that no attempt decides ends as a cancelled one, at once. -/
theorem Ending.cancelled_of_undecided
    (ending : Ending env settings method began 1 session final answer)
    (since : session.elapsed ≤ final.elapsed)
    (undecided : ∀ (made : Attempt) (position : Nat), made.IsOf env 1 session final position →
      position + 1 = final.sent.length → ¬ made.Decides env settings method began) :
    answer = .error .cancelled ∧ ∃ moment, env.cancelAt = some moment ∧
      final.elapsed = session.elapsed.atLeast moment := by
  have reached {moment : Delay} (ended : final.elapsed = moment) :
      final.elapsed = session.elapsed.atLeast moment := by
    rw [ended] at since
    exact ended.trans (congrArg Delay.mk (Nat.max_eq_right since)).symm
  cases ending with
  | decided of last decides _ => exact absurd decides (undecided _ _ of last)
  | early planned _ due ended =>
      exact ⟨rfl, _, planned, ended.trans (congrArg Delay.mk (Nat.max_eq_left due)).symm⟩
  | underWay planned _ _ _ ended => exact ⟨rfl, _, planned, reached ended⟩
  | waiting planned _ _ _ _ _ ended => exact ⟨rfl, _, planned, reached ended⟩

end

/-- Without a limit of time nothing is added. -/
theorem run_inRange_of_unlimited (countable : settings.maxRetries < Nat.pow 2 32 - 1)
    (unlimited : settings.maxElapsed = none) :
    InRange env settings request.method session (run env settings target request session).2 where
  attempts := run_attempts_countable countable
  sums limited := absurd unlimited limited

private def unavailableOnce : Environment :=
  { Environment.ofScript ⟨[⟨.zero, .ok ⟨503, [], []⟩⟩, ⟨.zero, .ok ⟨200, [], []⟩⟩], none⟩ with
    cancelAt := some ⟨1⟩ }

private def withdrawn : Request := .plain "GET" (.sample ["api"])

/-- A call whose first response is one to try again after. It is cancelled during the delay. -/
private def cancelledSoon : Except Error Response × Session :=
  run unavailableOnce .standard .resource withdrawn (.start ⟨0⟩)

end Pipeline

end KeyBound
