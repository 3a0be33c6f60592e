import KeyBound.Proofs.Client.Rounds

/-!
# The counters of a call

What a call adds to the counters of its kind. Every attempt is counted as its request is sent, every
retry before the delay that leads to the next attempt, and at the end either a success or a failure.
So there is one attempt more than there are retries, unless the call is cancelled in between.
-/

set_option autoImplicit false

namespace KeyBound

theorem RequestKind.label_injective {first second : RequestKind}
    (same : first.label = second.label) : first = second := by
  revert same
  cases first <;> cases second <;> decide

theorem RequestOutcome.label_injective {first second : RequestOutcome}
    (same : first.label = second.label) : first = second := by
  revert same
  cases first <;> cases second <;> decide

namespace Event

/-- The reports that make up a counter of calls are those of the events that count them. -/
theorem report_eq_iff {event : Event} {kind : RequestKind} {outcome : RequestOutcome} :
    event.report = .count "oauth2_courier_request_total"
        [("kind", .text kind.label), ("outcome", .text outcome.label)] ↔
      event = .counted kind outcome := by
  constructor
  · intro reported
    cases event with
    | span | delayChosen | retrying => cases reported
    | stepLogged step => cases step <;> cases reported
    | stepCounted step => exact absurd (Report.count.inj reported).1 (by decide)
    | counted first second =>
        simp only [report, Report.count.injEq, List.cons.injEq, Prod.mk.injEq,
          Json.Value.text.injEq, true_and, and_true] at reported
        rw [RequestKind.label_injective reported.2.1, RequestOutcome.label_injective reported.2.2]
  · rintro rfl
    rfl

theorem count_counted_ofStep (steps : List HandshakeStep) (kind : RequestKind)
    (outcome : RequestOutcome) : (steps.flatMap ofStep).count (.counted kind outcome) = 0 := by
  induction steps with
  | nil => rfl
  | cons step steps ih => simp [ofStep, ih]

end Event

abbrev Tally := RequestOutcome → Nat

namespace Tally

def once (counted : RequestOutcome) : Tally := fun outcome => if outcome = counted then 1 else 0

def none : Tally := fun _ => 0

def plus (first second : Tally) : Tally := fun outcome => first outcome + second outcome

/-- A retry stands between two attempts, or before the end of a call that is cancelled. -/
structure Alternates (tally : Tally) (cancelled : Prop) : Prop where
  retries_le : tally .retry ≤ tally .attempt
  attempts_le : tally .attempt ≤ tally .retry + 1
  attempts_eq : ¬ cancelled → tally .attempt = tally .retry + 1

/-- What a whole call counts: its attempts and retries, and its end, as a success or a failure. -/
structure Conserves (tally : Tally) (succeeded cancelled : Prop) : Prop extends
    tally.Alternates cancelled where
  ended : tally .success + tally .failure = 1
  success : tally .success = 1 ↔ succeeded

theorem Alternates.again {tally : Tally} {cancelled : Prop}
    (alternates : tally.Alternates cancelled) :
    (((once .attempt).plus (once .retry)).plus tally).Alternates cancelled := by
  obtain ⟨retries, attempts, same⟩ := alternates
  have retry : (((once .attempt).plus (once .retry)).plus tally) .retry = 1 + tally .retry := rfl
  have attempt : (((once .attempt).plus (once .retry)).plus tally) .attempt = 1 + tally .attempt :=
    rfl
  constructor
  · omega
  · omega
  · intro uncancelled
    have whole := same uncancelled
    omega

/-- The end of a call completes what its attempts count. -/
theorem Alternates.conserves {tally : Tally} {succeeded cancelled : Prop} {ending : RequestOutcome}
    (alternates : tally.Alternates cancelled) (success : tally .success = 0)
    (failure : tally .failure = 0)
    (ended : ending = .success ∧ succeeded ∨ ending = .failure ∧ ¬ succeeded) :
    ((none.plus tally).plus (once ending)).Conserves succeeded cancelled := by
  have attempt : ((none.plus tally).plus (once ending)) .attempt = tally .attempt := by
    rcases ended with ⟨rfl, _⟩ | ⟨rfl, _⟩ <;> exact Nat.zero_add _
  have retry : ((none.plus tally).plus (once ending)) .retry = tally .retry := by
    rcases ended with ⟨rfl, _⟩ | ⟨rfl, _⟩ <;> exact Nat.zero_add _
  refine ⟨⟨?_, ?_, ?_⟩, ?_, ?_⟩
  · rw [attempt, retry]
    exact alternates.retries_le
  · rw [attempt, retry]
    exact alternates.attempts_le
  · rw [attempt, retry]
    exact alternates.attempts_eq
  · rcases ended with ⟨rfl, _⟩ | ⟨rfl, _⟩ <;> simp [plus, none, once, success, failure]
  · rcases ended with ⟨rfl, holds⟩ | ⟨rfl, fails⟩
    · simp [plus, none, once, success, holds]
    · simp [plus, none, once, success, fails]

end Tally

namespace Session

def counter (kind : RequestKind) (outcome : RequestOutcome) (session : Session) : Nat :=
  session.events.count (.counted kind outcome)

/-- Between two sessions the counters of a kind have grown by some numbers, by one attempt for each
request that was sent, and no others have. -/
structure Counts (kind : RequestKind) (tally : Tally) (session later : Session) : Prop where
  sent : ∃ sent, later.sent = session.sent ++ sent ∧ sent.length = tally .attempt
  own : ∀ outcome, later.counter kind outcome = session.counter kind outcome + tally outcome
  others : ∀ other, other ≠ kind → ∀ outcome,
    later.counter other outcome = session.counter other outcome

namespace Counts

variable {kind : RequestKind} {first second third : Session}

theorem trans {before after : Tally} (earlier : Counts kind before first second)
    (later : Counts kind after second third) : Counts kind (before.plus after) first third where
  sent := by
    obtain ⟨sent, grown, length⟩ := earlier.sent
    obtain ⟨more, grownAgain, lengthToo⟩ := later.sent
    refine ⟨sent ++ more, by rw [grownAgain, grown, List.append_assoc], ?_⟩
    rw [List.length_append, length, lengthToo, Tally.plus]
  own outcome := by rw [later.own, earlier.own, Tally.plus, Nat.add_assoc]
  others other different outcome := by
    rw [later.others other different, earlier.others other different]

theorem of_quiet (told : List Event) (sent : second.sent = first.sent)
    (events : second.events = first.events ++ told)
    (quiet : ∀ other outcome, told.count (.counted other outcome) = 0) :
    Counts kind .none first second where
  sent := ⟨[], by rw [sent, List.append_nil], rfl⟩
  own outcome := by rw [counter, events, List.count_append, quiet, counter, Tally.none]
  others other _ outcome := by rw [counter, events, List.count_append, quiet, counter, Nat.add_zero]

theorem of_once (told : List Event) {counted : RequestOutcome}
    (sent : ∃ sent, second.sent = first.sent ++ sent ∧ sent.length = Tally.once counted .attempt)
    (events : second.events = first.events ++ (told ++ [.counted kind counted]))
    (quiet : ∀ other outcome, told.count (.counted other outcome) = 0) :
    Counts kind (.once counted) first second where
  sent := sent
  own outcome := by
    rw [counter, events, List.count_append, List.count_append, quiet, Nat.zero_add, counter,
      List.count_singleton]
    by_cases same : outcome = counted
    · simp [Tally.once, same]
    · simp [Tally.once, same, Ne.symm same]
  others other different outcome := by
    rw [counter, events, List.count_append, List.count_append, quiet, counter,
      List.count_singleton]
    simp [different.symm]

end Counts

end Session

open Session

namespace Pipeline

variable {env : Environment} {settings : RetrySettings} {target : Target} {request : Request}
  {began : Delay} {attempt : Nat} {retryFor : Option HeaderValue} {session after final : Session}

/-- An attempt is counted as its request is sent. None is made if the call is cancelled by then. -/
theorem attemptOnce_counts {outcome : Option Outcome}
    (attempted : attemptOnce env settings target request attempt retryFor session =
      (outcome, after)) :
    outcome = none ∧ Counts target.kind .none session after ∨
      Counts target.kind (.once .attempt) session after := by
  unfold attemptOnce at attempted
  split at attempted
  · cases attempted
    exact .inl ⟨rfl, .of_quiet [] rfl (List.append_nil _).symm fun _ _ => rfl⟩
  · obtain rfl := congrArg Prod.snd attempted
    refine .inr (.of_once
      ((session.handshake.refresh target (session.now env)).2.flatMap Event.ofStep) ?_ ?_
      fun other outcome => Event.count_counted_ofStep _ other outcome)
    · exact ⟨[(session.elapsed, _)], by simp [exchange]; rfl, rfl⟩
    · obtain ⟨_, _, _, same⟩ := exchange_eq env _ _
      rw [same, prepare_eq]
      exact List.append_assoc _ _ _

/-- A retry is counted before the delay, whether that passes or not. -/
theorem retry_counts {later : Session} {delay : Delay} {millis : Nat} {rateLimited passed : Bool}
    (waited : ((session.tell [.delayChosen attempt millis rateLimited]).tell
      [.retrying attempt millis, .counted target.kind .retry]).wait env delay = (passed, later)) :
    Counts target.kind (.once .retry) session later := by
  let retrying := (session.tell [.delayChosen attempt millis rateLimited]).tell
    [.retrying attempt millis, .counted target.kind .retry]
  obtain ⟨_, _, same⟩ := wait_eq env delay retrying
  obtain rfl : _ = later := same.symm.trans (congrArg Prod.snd waited)
  refine .of_once [.delayChosen attempt millis rateLimited, .retrying attempt millis]
    ⟨[], (List.append_nil _).symm, rfl⟩ (List.append_assoc _ _ _) fun _ _ => rfl

/-- The attempts of a call and the retries between them are counted, and its end is not yet. -/
theorem Course.counts {answer : Except Error Response}
    (course : Course env settings target request began attempt retryFor session answer final) :
    ∃ tally, Counts target.kind tally session final ∧ tally .success = 0 ∧ tally .failure = 0 ∧
      tally.Alternates (answer = .error .cancelled) := by
  induction course with
  | cancelled attempted =>
      rcases attemptOnce_counts attempted with ⟨_, counts⟩ | counts
      · exact ⟨_, counts, rfl, rfl, Nat.le_refl _, Nat.zero_le _, fun other => absurd rfl other⟩
      · exact ⟨_, counts, rfl, rfl, Nat.zero_le _, Nat.le_refl _, fun other => absurd rfl other⟩
  | final attempted =>
      rcases attemptOnce_counts attempted with ⟨none, _⟩ | counts
      · cases none
      · exact ⟨_, counts, rfl, rfl, Nat.zero_le _, Nat.le_refl _, fun _ => rfl⟩
  | @overBudget attempt _ _ after outcome delay attempted =>
      rcases attemptOnce_counts attempted with ⟨none, _⟩ | counts
      · cases none
      · have chosen : Counts target.kind .none after (after.tell
            [.delayChosen attempt delay.millis (RetrySettings.isRateLimited outcome)]) :=
          .of_quiet _ rfl rfl fun _ _ => rfl
        exact ⟨_, counts.trans chosen, rfl, rfl, Nat.zero_le _, Nat.le_refl _, fun _ => rfl⟩
  | interrupted attempted _ _ waited =>
      rcases attemptOnce_counts attempted with ⟨none, _⟩ | counts
      · cases none
      · exact ⟨_, counts.trans (retry_counts waited), rfl, rfl, Nat.le_refl _, by decide,
          fun other => absurd rfl other⟩
  | again attempted _ _ waited _ ih =>
      rcases attemptOnce_counts attempted with ⟨none, _⟩ | counts
      · cases none
      · obtain ⟨tally, rest, success, failure, alternates⟩ := ih
        refine ⟨_, (counts.trans (retry_counts waited)).trans rest, ?_, ?_, alternates.again⟩
        · exact congrArg (0 + ·) success
        · exact congrArg (0 + ·) failure

/-! ## Whole calls -/

def Succeeded (answer : Except Error Response) : Prop :=
  ∃ response, answer = .ok response ∧ response.isSuccess = true

theorem outcomeOf_cases (answer : Except Error Response) :
    outcomeOf answer = .success ∧ Succeeded answer ∨
      outcomeOf answer = .failure ∧ ¬ Succeeded answer := by
  cases answer with
  | error error => exact .inr ⟨rfl, nofun⟩
  | ok response =>
      cases success : response.isSuccess with
      | true => exact .inl ⟨by simp [outcomeOf, success], response, rfl, success⟩
      | false =>
          refine .inr ⟨by simp [outcomeOf, success], ?_⟩
          rintro ⟨_, same, succeeded⟩
          cases same
          rw [success] at succeeded
          cases succeeded

/-- The end of a call is counted once, after its attempts. -/
theorem run_conserves (env : Environment) (settings : RetrySettings) (target : Target)
    (request : Request) (session : Session) :
    ∃ tally : Tally,
      Counts target.kind tally session (run env settings target request session).2 ∧
      tally.Conserves (Succeeded (run env settings target request session).1)
        ((run env settings target request session).1 = .error .cancelled) := by
  have course := attempts_course env settings target request session.elapsed
    (Nat.le_refl settings.maxRetries) none (session.tell [.span target.kind .pipeline])
  obtain ⟨tally, inner, success, failure, alternates⟩ := course.counts
  have opened : Counts target.kind .none session (session.tell [.span target.kind .pipeline]) :=
    .of_quiet _ rfl rfl fun _ _ => rfl
  have ended := outcomeOf_cases (run env settings target request session).1
  have unmade : RequestOutcome.attempt ≠ outcomeOf (run env settings target request session).1 := by
    rcases ended with ⟨same, _⟩ | ⟨same, _⟩ <;> simp [same]
  have closed (ended : Session) :
      Counts target.kind (.once (outcomeOf (run env settings target request session).1)) ended
        (ended.tell [.counted target.kind
          (outcomeOf (run env settings target request session).1)]) :=
    .of_once [] ⟨[], (List.append_nil _).symm, (if_neg unmade).symm⟩ rfl fun _ _ => rfl
  exact ⟨_, (opened.trans inner).trans (closed _), alternates.conserves success failure ended⟩

/-! ## Calls of the token endpoint -/

/-- To take a response of the token endpoint counts nothing. -/
theorem runToken_counts {tally : Tally}
    (counts : Counts .token tally session (run env settings .token request session).2) :
    Counts .token tally session (runToken env settings request session).2 := by
  rw [runToken_eq]
  split
  · exact counts
  · rename_i response _
    obtain ⟨_, _, steps, _, observed⟩ :=
      observe_takes env response (run env settings .token request session).2
    have taken : Counts .token .none (run env settings .token request session).2
        ((run env settings .token request session).2.observe env response).2 := by
      rw [observed]
      exact .of_quiet _ rfl rfl fun other outcome => Event.count_counted_ofStep steps other outcome
    exact counts.trans taken

/-- The handshake takes no response that reports success from the caller. -/
theorem succeeded_iff_runToken :
    Succeeded (run env settings .token request session).1 ↔
      ∃ response, (runToken env settings request session).1 = .ok (.completed response) ∧
        response.isSuccess = true := by
  rw [runToken_eq]
  cases (run env settings .token request session).1 with
  | error error => exact iff_of_false nofun nofun
  | ok response =>
      obtain ⟨verdict, _, _, rule, observed⟩ :=
        observe_takes env response (run env settings .token request session).2
      simp only [observed]
      constructor
      · rintro ⟨_, same, success⟩
        cases same
        obtain rfl := rule.eq_pass success
        exact ⟨response, rfl, success⟩
      · rintro ⟨completed, ended, success⟩
        cases verdict with
        | pass =>
            cases ended
            exact ⟨response, rfl, success⟩
        | advance | violation | beyondCalendar => cases ended

/-- A call adds to the counters of its kind one attempt for each request that it sends, its end as a
success or as a failure, and as many retries as there are attempts but one. Only if it is cancelled,
there may be as many retries as attempts. No other counters change. This is so too for a call of the
token endpoint whose response the handshake takes. -/
theorem run_counts (env : Environment) (settings : RetrySettings) (target : Target)
    (request : Request) (session : Session) :
    (∃ tally : Tally,
      Counts target.kind tally session (run env settings target request session).2 ∧
      tally.Conserves
        (∃ response, (run env settings target request session).1 = .ok response ∧
          response.isSuccess = true)
        ((run env settings target request session).1 = .error .cancelled)) ∧
    (∃ tally : Tally,
      Counts .token tally session (runToken env settings request session).2 ∧
      tally.Conserves
        (∃ response, (runToken env settings request session).1 = .ok (.completed response) ∧
          response.isSuccess = true)
        ((runToken env settings request session).1 = .error .cancelled)) := by
  refine ⟨run_conserves env settings target request session, ?_⟩
  obtain ⟨tally, counts, conserves⟩ := run_conserves env settings .token request session
  refine ⟨tally, runToken_counts counts, ⟨conserves.retries_le, conserves.attempts_le, ?_⟩,
    conserves.ended, conserves.success.trans succeeded_iff_runToken⟩
  intro uncancelled
  refine conserves.attempts_eq fun cancelled => uncancelled ?_
  rw [runToken_eq, cancelled]

end Pipeline

end KeyBound
