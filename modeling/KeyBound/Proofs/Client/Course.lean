import KeyBound.Client.Pipeline
import KeyBound.Proofs.Client.Session
import KeyBound.Proofs.Retry.Policy

/-!
# The course of a call

How the attempts of a call follow each other, one rule for each way in which an attempt ends. A
call is followed through the requests that it sent: what was answered, when each was sent, and why
another one came after it.
-/

set_option autoImplicit false

namespace KeyBound.Pipeline

variable {env : Environment} {settings : RetrySettings} {target : Target} {request : Request}
  {began : Delay} {attempt : Nat} {retryFor : Option HeaderValue} {session after : Session}
  {outcome : Outcome}

/-! ## One attempt -/

theorem attemptOnce_sent (env : Environment) (settings : RetrySettings) (target : Target)
    (request : Request) (attempt : Nat) (retryFor : Option HeaderValue) (session : Session) :
    (attemptOnce env settings target request attempt retryFor session).2.sent = session.sent ∨
      ∃ prepared, (attemptOnce env settings target request attempt retryFor session).2.sent =
        session.sent ++ [(session.elapsed, prepared)] := by
  unfold attemptOnce
  split
  · exact .inl rfl
  · refine .inr ⟨(session.prepare env target (tagged settings attempt retryFor request)).1, ?_⟩
    simp [Session.exchange]

/-- An attempt with an outcome sent a request, and the server answered it so. -/
theorem attemptOnce_some
    (answered : attemptOnce env settings target request attempt retryFor session =
      (some outcome, after)) :
    ∃ prepared, after.sent = session.sent ++ [(session.elapsed, prepared)] ∧
      outcome = (env.respond (session.sent.map (·.2)) prepared).outcome ∧
      after.elapsed = session.deadline (env.respond (session.sent.map (·.2)) prepared).delay := by
  unfold attemptOnce at answered
  split at answered
  · cases answered
  · obtain ⟨same, rfl⟩ := Session.exchange_some answered
    exact ⟨_, rfl, same, rfl⟩

/-- Without a cancellation every attempt has an outcome. -/
theorem attemptOnce_of_uncancelled (uncancelled : env.cancelAt = none) :
    ∃ outcome after,
      attemptOnce env settings target request attempt retryFor session = (some outcome, after) := by
  have open' : session.isCancelled env = false := by simp [Session.isCancelled, uncancelled]
  simp [attemptOnce, open', Session.exchange, Session.wait_of_uncancelled uncancelled]

/-- Whether the policy has a request sent again after an attempt, if nothing is cancelled. -/
def goesOn (settings : RetrySettings) (method : String) (attempt : Nat) (outcome : Outcome) :
    Bool :=
  settings.shouldRetry attempt outcome (settings.isIdempotent method (wasSent outcome)) false

theorem goesOn_of_delay? {method : String} {cancelled : Bool} {delay : Delay}
    (chosen : delay? settings attempt method outcome cancelled = some delay) :
    goesOn settings method attempt outcome = true ∧
      delay = settings.retryDelay attempt outcome := by
  unfold delay? at chosen
  split at chosen
  · rename_i allowed
    cases chosen
    obtain ⟨rfl, _⟩ := RetrySettings.shouldRetry_eq_true_iff.mp allowed
    exact ⟨allowed, rfl⟩
  · cases chosen

/-! ## All attempts -/

/-- How a call goes on from an attempt, and how it ends. An attempt is the last one if the call is
cancelled before its outcome, if its outcome is not one to try again after, if the delay would not
fit the time that the call may take, or if the call is cancelled during the delay. -/
inductive Course (env : Environment) (settings : RetrySettings) (target : Target)
    (request : Request) (began : Delay) :
    Nat → Option HeaderValue → Session → Except Error Response → Session → Prop where
  | cancelled {attempt : Nat} {retryFor : Option HeaderValue} {session after : Session} :
      attemptOnce env settings target request attempt retryFor session = (none, after) →
      Course env settings target request began attempt retryFor session (.error .cancelled) after
  | final {attempt : Nat} {retryFor : Option HeaderValue} {session after : Session}
      {outcome : Outcome} :
      attemptOnce env settings target request attempt retryFor session = (some outcome, after) →
      delay? settings attempt request.method outcome (after.isCancelled env) = none →
      Course env settings target request began attempt retryFor session (result outcome) after
  | overBudget {attempt : Nat} {retryFor : Option HeaderValue} {session after : Session}
      {outcome : Outcome} {delay : Delay} :
      attemptOnce env settings target request attempt retryFor session = (some outcome, after) →
      delay? settings attempt request.method outcome (after.isCancelled env) = some delay →
      isOverBudget settings (after.elapsed.minus began) delay = true →
      Course env settings target request began attempt retryFor session (result outcome)
        (after.tell [.delayChosen attempt delay.millis (RetrySettings.isRateLimited outcome)])
  | interrupted {attempt : Nat} {retryFor : Option HeaderValue} {session after later : Session}
      {outcome : Outcome} {delay : Delay} :
      attemptOnce env settings target request attempt retryFor session = (some outcome, after) →
      delay? settings attempt request.method outcome (after.isCancelled env) = some delay →
      isOverBudget settings (after.elapsed.minus began) delay = false →
      ((after.tell [.delayChosen attempt delay.millis (RetrySettings.isRateLimited outcome)]).tell
        [.retrying attempt delay.millis, .counted target.kind .retry]).wait env delay =
          (false, later) →
      Course env settings target request began attempt retryFor session (.error .cancelled) later
  | again {attempt : Nat} {retryFor : Option HeaderValue} {session after later final : Session}
      {outcome : Outcome} {delay : Delay} {answer : Except Error Response} :
      attemptOnce env settings target request attempt retryFor session = (some outcome, after) →
      delay? settings attempt request.method outcome (after.isCancelled env) = some delay →
      isOverBudget settings (after.elapsed.minus began) delay = false →
      ((after.tell [.delayChosen attempt delay.millis (RetrySettings.isRateLimited outcome)]).tell
        [.retrying attempt delay.millis, .counted target.kind .retry]).wait env delay =
          (true, later) →
      Course env settings target request began (attempt + 1) (firstNamed retryFor outcome) later
        answer final →
      Course env settings target request began attempt retryFor session answer final

/-- The attempts of a call follow the rules, whatever number of retries is left. -/
theorem attempts_course (env : Environment) (settings : RetrySettings) (target : Target)
    (request : Request) (began : Delay) {retriesLeft : Nat}
    (bounded : retriesLeft ≤ settings.maxRetries) (retryFor : Option HeaderValue)
    (session : Session) :
    Course env settings target request began (settings.maxRetries + 1 - retriesLeft) retryFor
      session (attempts env settings target request began retriesLeft retryFor session).1
      (attempts env settings target request began retriesLeft retryFor session).2 := by
  induction retriesLeft generalizing retryFor session with
  | zero =>
      rw [attempts, Nat.sub_zero]
      cases attempted : attemptOnce env settings target request (settings.maxRetries + 1) retryFor
          session with
      | mk outcome after =>
          cases outcome with
          | none => exact .cancelled attempted
          | some outcome =>
              refine .final attempted ?_
              simp [delay?, RetrySettings.shouldRetry]
  | succ retriesLeft ih =>
      have number : settings.maxRetries + 1 - (retriesLeft + 1) =
          settings.maxRetries - retriesLeft := by omega
      have next : settings.maxRetries + 1 - retriesLeft =
          settings.maxRetries - retriesLeft + 1 := by omega
      -- The number of an attempt grows as the number of retries that are left falls.
      rw [number, attempts]
      cases attempted : attemptOnce env settings target request (settings.maxRetries - retriesLeft)
          retryFor session with
      | mk outcome after =>
          cases outcome with
          | none => exact .cancelled attempted
          | some outcome =>
              dsimp only
              split
              · rename_i stopped
                exact .final attempted stopped
              · rename_i delay chosen
                split
                · rename_i exceeded
                  exact .overBudget attempted chosen exceeded
                · rename_i within
                  split
                  · rename_i later waited
                    exact .interrupted attempted chosen (by simpa using within) waited
                  · rename_i later waited
                    have rest := ih (by omega) (firstNamed retryFor outcome) later
                    rw [next] at rest
                    exact .again attempted chosen (by simpa using within) waited rest

/-! ## Requests of a call -/

/-- An attempt with an outcome: its number, when its request was sent, and the reply. -/
structure Attempt where
  number : Nat
  start : Delay
  reply : Reply

namespace Attempt

def finish (made : Attempt) : Delay := made.start.plus (made.reply.delay.atMost .longestTimer)

def delay (made : Attempt) (settings : RetrySettings) : Delay :=
  settings.retryDelay made.number made.reply.outcome

def next (made : Attempt) (settings : RetrySettings) : Delay :=
  made.finish.plus ((made.delay settings).atMost .longestTimer)

def goesOn (made : Attempt) (settings : RetrySettings) (method : String) : Bool :=
  Pipeline.goesOn settings method made.number made.reply.outcome

/-- Whether another attempt would start after the time that the call may take. -/
def isLate (made : Attempt) (settings : RetrySettings) (began : Delay) : Bool :=
  isOverBudget settings (made.finish.minus began) (made.delay settings)

structure IsAt (made : Attempt) (env : Environment) (final : Session) (position : Nat) :
    Prop where
  start : final.sentAt? position = some made.start
  reply : final.reply? env position = some made.reply

theorem IsAt.of_sent {made : Attempt} {later final : Session} {position : Nat}
    (placed : made.IsAt env later position) (same : final.sent = later.sent) :
    made.IsAt env final position where
  start := by rw [Session.sentAt?, same]; exact placed.start
  reply := by rw [Session.reply?, same]; exact placed.reply

theorem IsAt.of_grows {made : Attempt} {later final : Session} {position : Nat}
    (placed : made.IsAt env later position) (earlier : later.sent <+: final.sent)
    (inside : position < later.sent.length) : made.IsAt env final position where
  start := (Session.sentAt?_of_grows earlier inside).trans placed.start
  reply := (Session.reply?_of_grows earlier inside).trans placed.reply

end Attempt

/-- What the transport sees of a call from an attempt on: nothing more, one last request, or a
request after whose outcome the call goes on, as soon as the delay has passed. -/
inductive Sends (env : Environment) (settings : RetrySettings) (method : String) (began : Delay) :
    Nat → Session → Session → Prop where
  | nothing {attempt : Nat} {session final : Session} :
      final.sent = session.sent → Sends env settings method began attempt session final
  | last {attempt : Nat} {session final : Session} {prepared : Request} :
      final.sent = session.sent ++ [(session.elapsed, prepared)] →
      Sends env settings method began attempt session final
  | again {session later final : Session} {made : Attempt} :
      later.sent.length = session.sent.length + 1 →
      session.sent <+: later.sent →
      made.start = session.elapsed →
      made.IsAt env later session.sent.length →
      made.goesOn settings method = true →
      made.isLate settings began = false →
      later.elapsed = made.next settings →
      Sends env settings method began (made.number + 1) later final →
      Sends env settings method began made.number session final

private theorem sends_of_attemptOnce {method : String} {final : Session}
    (same : final.sent =
      (attemptOnce env settings target request attempt retryFor session).2.sent) :
    Sends env settings method began attempt session final := by
  rcases attemptOnce_sent env settings target request attempt retryFor session with
    none | ⟨prepared, one⟩
  · exact .nothing (same.trans none)
  · exact .last (same.trans one)

/-- An attempt with an outcome, as the requests that were sent show it. -/
theorem attempt_of_some
    (answered : attemptOnce env settings target request attempt retryFor session =
      (some outcome, after)) :
    ∃ made : Attempt, made.number = attempt ∧ made.start = session.elapsed ∧
      made.reply.outcome = outcome ∧ made.IsAt env after session.sent.length ∧
      after.sent.length = session.sent.length + 1 ∧ session.sent <+: after.sent ∧
      after.elapsed = made.finish := by
  obtain ⟨prepared, one, same, reached⟩ := attemptOnce_some answered
  let made : Attempt :=
    ⟨attempt, session.elapsed, env.respond (session.sent.map fun entry => entry.2) prepared⟩
  have placed : made.IsAt env after session.sent.length :=
    ⟨Session.sentAt?_of_append one, Session.reply?_of_append one⟩
  refine ⟨made, rfl, rfl, same.symm, placed, ?_, ?_, reached⟩
  · rw [one, List.length_append, List.length_singleton]
  · exact one ▸ List.prefix_append _ _

theorem passed_of_wait {later : Session} {delay : Delay}
    (waited : session.wait env delay = (true, later)) :
    later.sent = session.sent ∧
      later.elapsed = session.elapsed.plus (delay.atMost .longestTimer) := by
  have passed := Session.wait_passed (congrArg Prod.fst waited)
  rw [waited] at passed
  dsimp only at passed
  subst passed
  exact ⟨rfl, rfl⟩

theorem Course.sends {final : Session} {answer : Except Error Response}
    (course : Course env settings target request began attempt retryFor session answer final) :
    Sends env settings request.method began attempt session final := by
  induction course with
  | cancelled attempted => exact sends_of_attemptOnce (congrArg (·.2.sent) attempted).symm
  | final attempted => exact sends_of_attemptOnce (congrArg (·.2.sent) attempted).symm
  | overBudget attempted => exact sends_of_attemptOnce (congrArg (·.2.sent) attempted).symm
  | interrupted attempted _ _ waited =>
      have unchanged := congrArg (·.2.sent) waited
      rw [Session.wait_sent] at unchanged
      exact sends_of_attemptOnce (unchanged.symm.trans (congrArg (·.2.sent) attempted).symm)
  | again attempted chosen within waited _ rest =>
      obtain ⟨allowed, rfl⟩ := goesOn_of_delay? chosen
      obtain ⟨made, rfl, start, rfl, placed, one, earlier, reached⟩ := attempt_of_some attempted
      obtain ⟨sent, elapsed⟩ := passed_of_wait waited
      rw [Session.tell_sent, Session.tell_sent] at sent
      rw [Session.tell_elapsed, Session.tell_elapsed, reached] at elapsed
      rw [reached] at within
      rw [← sent] at one earlier
      exact .again one earlier start (placed.of_sent sent) allowed within elapsed rest

namespace Sends

variable {method : String} {final : Session}

theorem sent_grows (sends : Sends env settings method began attempt session final) :
    session.sent <+: final.sent := by
  induction sends with
  | nothing same => exact same ▸ List.prefix_refl _
  | last one => exact one ▸ List.prefix_append _ _
  | again _ earlier _ _ _ _ _ _ ih => exact earlier.trans ih

theorem sentAt?_first (sends : Sends env settings method began attempt session final)
    (more : session.sent.length < final.sent.length) :
    final.sentAt? session.sent.length = some session.elapsed := by
  cases sends with
  | nothing same => rw [same] at more; exact absurd more (Nat.lt_irrefl _)
  | last one => exact Session.sentAt?_of_append one
  | again one _ start placed _ _ _ rest =>
      rw [Session.sentAt?_of_grows rest.sent_grows (by omega), placed.start, start]

/-- Between two requests of a call stands an outcome after which the policy has a request sent
again, in time, and the second one is sent as soon as the delay after that outcome has passed. -/
theorem followed (sends : Sends env settings method began attempt session final) {position : Nat}
    (begun : session.sent.length ≤ position) (more : position + 1 < final.sent.length) :
    ∃ made : Attempt, made.number = attempt + (position - session.sent.length) ∧
      made.IsAt env final position ∧ made.goesOn settings method = true ∧
      made.isLate settings began = false ∧
      final.sentAt? (position + 1) = some (made.next settings) := by
  induction sends with
  | nothing same => rw [same] at more; omega
  | last one =>
      rw [one, List.length_append, List.length_singleton] at more
      omega
  | @again session later final made one _ _ placed allowed within reached rest ih =>
      rcases Nat.eq_or_lt_of_le begun with first | further
      · subst first
        refine ⟨made, by omega, placed.of_grows rest.sent_grows (by omega), allowed, within, ?_⟩
        rw [← one] at more ⊢
        rw [rest.sentAt?_first more, reached]
      · obtain ⟨other, numbered, facts⟩ := ih (by omega) more
        exact ⟨other, by omega, facts⟩

end Sends

/-! ## The last attempt -/

private theorem uncancelled_of_none (uncancelled : env.cancelAt = none) (session : Session) :
    session.isCancelled env = false := by
  simp [Session.isCancelled, uncancelled]

/-- Without a cancellation a call ends with the outcome of its last attempt, at once. It is an
outcome after which the policy has no request sent again, or another attempt would be late. -/
theorem Course.ended (uncancelled : env.cancelAt = none) {final : Session}
    {answer : Except Error Response}
    (course : Course env settings target request began attempt retryFor session answer final) :
    ∃ (position : Nat) (made : Attempt), session.sent.length ≤ position ∧
      final.sent.length = position + 1 ∧
      made.number = attempt + (position - session.sent.length) ∧ made.IsAt env final position ∧
      answer = result made.reply.outcome ∧ final.elapsed = made.finish ∧
      (made.goesOn settings request.method = false ∨ made.isLate settings began = true) := by
  induction course with
  | cancelled attempted =>
      obtain ⟨outcome, after, some⟩ := attemptOnce_of_uncancelled uncancelled
      rw [some] at attempted
      cases attempted
  | @final attempt retryFor session after outcome attempted stopped =>
      obtain ⟨made, rfl, _, rfl, placed, one, _, reached⟩ := attempt_of_some attempted
      rw [uncancelled_of_none uncancelled] at stopped
      refine ⟨session.sent.length, made, Nat.le_refl _, one, by omega, placed, rfl, reached,
        .inl ?_⟩
      simpa [delay?, Attempt.goesOn, goesOn] using stopped
  | @overBudget attempt retryFor session after outcome delay attempted chosen exceeded =>
      obtain ⟨_, rfl⟩ := goesOn_of_delay? chosen
      obtain ⟨made, rfl, _, rfl, placed, one, _, reached⟩ := attempt_of_some attempted
      rw [reached] at exceeded
      exact ⟨session.sent.length, made, Nat.le_refl _, one, by omega, placed.of_sent rfl, rfl,
        reached, .inr exceeded⟩
  | interrupted _ _ _ waited =>
      rw [Session.wait_of_uncancelled uncancelled] at waited
      cases waited
  | again attempted _ _ waited _ ih =>
      obtain ⟨_, _, _, _, _, one, _, _⟩ := attempt_of_some attempted
      obtain ⟨sent, _⟩ := passed_of_wait waited
      rw [Session.tell_sent, Session.tell_sent] at sent
      rw [← sent] at one
      obtain ⟨position, made, begun, length, numbered, facts⟩ := ih
      exact ⟨position, made, by omega, length, by omega, facts⟩

/-! ## Whole calls -/

theorem run_course (env : Environment) (settings : RetrySettings) (target : Target)
    (request : Request) (session : Session) :
    ∃ final told, (run env settings target request session).2 = final.tell told ∧
      Course env settings target request session.elapsed 1 none
        (session.tell [.span target.kind .pipeline]) (run env settings target request session).1
        final := by
  have course := attempts_course env settings target request session.elapsed
    (Nat.le_refl settings.maxRetries) none (session.tell [.span target.kind .pipeline])
  rw [Nat.add_sub_cancel_left] at course
  exact ⟨_, _, rfl, course⟩

theorem run_sent_grows (env : Environment) (settings : RetrySettings) (target : Target)
    (request : Request) (session : Session) :
    session.sent <+: (run env settings target request session).2.sent := by
  obtain ⟨final, told, whole, course⟩ := run_course env settings target request session
  rw [whole]
  exact course.sends.sent_grows

theorem run_sentAt?_first
    (more : session.sent.length < (run env settings target request session).2.sent.length) :
    (run env settings target request session).2.sentAt? session.sent.length =
      some session.elapsed := by
  obtain ⟨final, told, whole, course⟩ := run_course env settings target request session
  rw [whole] at more ⊢
  exact course.sends.sentAt?_first more

theorem run_followed {position : Nat} (begun : session.sent.length ≤ position)
    (more : position + 1 < (run env settings target request session).2.sent.length) :
    ∃ made : Attempt, made.number = 1 + (position - session.sent.length) ∧
      made.IsAt env (run env settings target request session).2 position ∧
      made.goesOn settings request.method = true ∧
      made.isLate settings session.elapsed = false ∧
      (run env settings target request session).2.sentAt? (position + 1) =
        some (made.next settings) := by
  obtain ⟨final, told, whole, course⟩ := run_course env settings target request session
  rw [whole] at more ⊢
  obtain ⟨made, numbered, placed, facts⟩ := course.sends.followed begun more
  exact ⟨made, numbered, placed.of_sent rfl, facts⟩

theorem run_ended (uncancelled : env.cancelAt = none) (settings : RetrySettings) (target : Target)
    (request : Request) (session : Session) :
    ∃ (position : Nat) (made : Attempt), session.sent.length ≤ position ∧
      (run env settings target request session).2.sent.length = position + 1 ∧
      made.number = 1 + (position - session.sent.length) ∧
      made.IsAt env (run env settings target request session).2 position ∧
      (run env settings target request session).1 = result made.reply.outcome ∧
      (run env settings target request session).2.elapsed = made.finish ∧
      (made.goesOn settings request.method = false ∨
        made.isLate settings session.elapsed = true) := by
  obtain ⟨final, told, whole, course⟩ := run_course env settings target request session
  obtain ⟨position, made, begun, length, numbered, placed, facts⟩ := course.ended uncancelled
  rw [whole]
  exact ⟨position, made, begun, length, numbered, placed.of_sent rfl, facts⟩

end KeyBound.Pipeline
