import KeyBound.Proofs.Client.Rounds

/-!
# The effort of a call

How many calls of the pipeline and how many requests an operation of a client takes at most,
whatever the server answers.
-/

set_option autoImplicit false

namespace KeyBound

namespace Session

def calls (kind : RequestKind) (session : Session) : Nat :=
  session.events.count (.span kind .pipeline)

def acquisitions (session : Session) : Nat :=
  session.events.count (.span .token .clientCredentials)

variable {tokenCalls resourceCalls requests : Nat} {first second third : Session}

/-- What was spent between two sessions: some calls of the token endpoint at most, exactly some
other calls, and some requests at most. -/
structure Spends (tokenCalls resourceCalls requests : Nat) (session later : Session) : Prop where
  tokenCalls : later.calls .token ≤ session.calls .token + tokenCalls
  resourceCalls : later.calls .resource = session.calls .resource + resourceCalls
  requests : later.sent.length ≤ session.sent.length + requests

namespace Spends

theorem nothing (events : second.events = first.events) (sent : second.sent = first.sent) :
    Spends tokenCalls 0 requests first second := by
  constructor
  · rw [calls, events]
    exact Nat.le_add_right _ _
  · rw [calls, events]
    rfl
  · rw [sent]
    exact Nat.le_add_right _ _

theorem trans {moreToken moreResource moreRequests : Nat}
    (before : Spends tokenCalls resourceCalls requests first second)
    (after : Spends moreToken moreResource moreRequests second third) :
    Spends (tokenCalls + moreToken) (resourceCalls + moreResource) (requests + moreRequests)
      first third := by
  obtain ⟨token, resource, sent⟩ := before
  obtain ⟨tokenToo, resourceToo, sentToo⟩ := after
  constructor <;> omega

theorem weaken {moreToken moreRequests : Nat}
    (spends : Spends tokenCalls resourceCalls requests first second)
    (token : tokenCalls ≤ moreToken) (sent : requests ≤ moreRequests) :
    Spends moreToken resourceCalls moreRequests first second := by
  obtain ⟨fewTokens, resource, fewSent⟩ := spends
  constructor <;> omega

end Spends

end Session

open Session

namespace Pipeline

variable {env : Environment} {settings : RetrySettings} {target : Target} {request : Request}

/-- An attempt sends one request at most, and only so many of them are followed by another one. -/
theorem Course.sent_length_le {began : Delay} {attempt : Nat} {retryFor : Option HeaderValue}
    {session final : Session} {answer : Except Error Response}
    (course : Course env settings target request began attempt retryFor session answer final) :
    final.sent.length ≤ session.sent.length + (settings.maxRetries + 1 - attempt) + 1 := by
  have one (attempt : Nat) (retryFor : Option HeaderValue) (session : Session) :
      (attemptOnce env settings target request attempt retryFor session).2.sent.length ≤
        session.sent.length + 1 := by
    rcases attemptOnce_sent env settings target request attempt retryFor session with
      same | ⟨prepared, same⟩
    · rw [same]
      exact Nat.le_succ _
    · rw [same, List.length_append]
      exact Nat.le_refl _
  induction course with
  | @cancelled attempt retryFor session _ attempted
  | @final attempt retryFor session _ _ attempted
  | @overBudget attempt retryFor session _ _ _ attempted =>
      have few := one attempt retryFor session
      rw [attempted] at few
      exact Nat.le_trans few (by omega)
  | @interrupted attempt retryFor session _ _ _ _ attempted _ _ waited =>
      have few := one attempt retryFor session
      have unchanged := congrArg (·.2.sent.length) waited
      simp only [wait_sent, tell_sent] at unchanged
      rw [attempted] at few
      dsimp only at few
      omega
  | @again attempt retryFor session _ _ _ outcome _ _ attempted chosen _ waited _ ih =>
      have few := one attempt retryFor session
      have unchanged := congrArg (·.2.sent.length) waited
      simp only [wait_sent, tell_sent] at unchanged
      rw [attempted] at few
      dsimp only at few
      -- The policy has let the request be sent again, so that this attempt was not the last one.
      have left : attempt ≤ settings.maxRetries := by
        obtain ⟨allowed, _⟩ := goesOn_of_delay? chosen
        exact (RetrySettings.shouldRetry_eq_true_iff.mp allowed).2.1
      omega

theorem run_sent_length_le (env : Environment) (settings : RetrySettings) (target : Target)
    (request : Request) (session : Session) :
    (run env settings target request session).2.sent.length ≤
      session.sent.length + (settings.maxRetries + 1) := by
  obtain ⟨final, told, whole, course⟩ := run_course env settings target request session
  have few := course.sent_length_le
  rw [whole]
  simpa [Nat.add_assoc] using few

/-- The one span that a call tells is its own. -/
theorem run_count_span (env : Environment) (settings : RetrySettings) (target : Target)
    (request : Request) (session : Session) (kind : RequestKind) (stage : Stage) :
    (run env settings target request session).2.events.count (.span kind stage) =
      session.events.count (.span kind stage) +
        [Event.span target.kind .pipeline].count (.span kind stage) := by
  obtain ⟨told, inner, kept⟩ := (parts_keeps env settings target request).of_run session
  rw [kept.events, List.count_append, count_span_of_isInner inner]
  exact List.count_append

/-- A call begins once. -/
theorem run_calls (env : Environment) (settings : RetrySettings) (target : Target)
    (request : Request) (session : Session) (kind : RequestKind) :
    (run env settings target request session).2.calls kind =
      session.calls kind + [target.kind].count kind := by
  rw [Session.calls, Session.calls, run_count_span]
  by_cases same : target.kind = kind <;> simp [same]

theorem run_acquisitions (env : Environment) (settings : RetrySettings) (target : Target)
    (request : Request) (session : Session) :
    (run env settings target request session).2.acquisitions = session.acquisitions := by
  rw [Session.acquisitions, Session.acquisitions, run_count_span]
  simp

theorem runToken_acquisitions (env : Environment) (settings : RetrySettings) (request : Request)
    (session : Session) :
    (runToken env settings request session).2.acquisitions = session.acquisitions := by
  have ran := run_acquisitions env settings .token request session
  rw [runToken_eq]
  split
  · exact ran
  · rename_i response _
    obtain ⟨told, inner, follows, _, _⟩ :=
      observe_follows env response (run env settings .token request session).2
    rw [Session.acquisitions, follows.events, List.count_append, count_span_of_isInner inner]
    exact ran

theorem run_spends_resource (env : Environment) (settings : RetrySettings) (request : Request)
    (session : Session) :
    Spends 0 1 (settings.maxRetries + 1) session
      (run env settings .resource request session).2 where
  tokenCalls := Nat.le_of_eq (run_calls env settings .resource request session .token)
  resourceCalls := run_calls env settings .resource request session .resource
  requests := run_sent_length_le env settings .resource request session

theorem runToken_spends (env : Environment) (settings : RetrySettings) (request : Request)
    (session : Session) :
    Spends 1 0 (settings.maxRetries + 1) session (runToken env settings request session).2 := by
  have ran : Spends 1 0 (settings.maxRetries + 1) session
      (run env settings .token request session).2 := by
    constructor
    · exact Nat.le_of_eq (run_calls env settings .token request session .token)
    · exact run_calls env settings .token request session .resource
    · exact run_sent_length_le env settings .token request session
  rw [runToken_eq]
  split
  · exact ran
  · rename_i response _
    obtain ⟨told, inner, follows, _, _⟩ :=
      observe_follows env response (run env settings .token request session).2
    have quiet (kind : RequestKind) : Session.calls kind
        ((run env settings .token request session).2.observe env response).2 =
        (run env settings .token request session).2.calls kind := by
      rw [Session.calls, follows.events, List.count_append, count_span_of_isInner inner]
      rfl
    have observed : Spends 0 0 0 (run env settings .token request session).2
        ((run env settings .token request session).2.observe env response).2 := by
      constructor
      · exact Nat.le_of_eq (quiet .token)
      · exact quiet .resource
      · exact Nat.le_of_eq (congrArg List.length (observe_sent env response _))
    exact ran.trans observed

end Pipeline

namespace Acquisition

theorem parts_spends (env : Environment) (config : ClientConfig) :
    Parts env config fun calls => Spends calls 0 (calls * (config.retry.maxRetries + 1)) where
  trans before after := by
    rw [Nat.add_mul]
    exact before.trans after
  weaken few spends := spends.weaken few (Nat.mul_le_mul_right _ few)
  looked _ := .nothing rfl rfl
  drawn _ := .nothing rfl rfl
  told session := by
    have quiet (kind : RequestKind) :
        (session.tell [.span .token .clientCredentials]).calls kind = session.calls kind := by
      simp [Session.calls, Session.tell]
    constructor
    · exact Nat.le_of_eq (quiet .token)
    · exact quiet .resource
    · exact Nat.le_add_right _ _
  called session made _ := by
    rw [Nat.one_mul]
    exact Pipeline.runToken_spends env config.retry made session

theorem exchange_acquisitions (env : Environment) (config : ClientConfig) (session : Session) :
    (exchange env config session).2.acquisitions = session.acquisitions := by
  unfold exchange
  dsimp only
  split
  · rfl
  · rename_i made _
    have ran := Pipeline.runToken_acquisitions env config.retry made
      ((session.look env).2.draw env).2
    split
    · rename_i result
      rwa [result] at ran
    · rename_i result
      rwa [result] at ran
    · rename_i result
      rw [result] at ran
      split <;> exact ran

theorem exchanges_acquisitions (env : Environment) (config : ClientConfig) (roundsLeft : Nat)
    (session : Session) :
    (exchanges env config roundsLeft session).2.acquisitions = session.acquisitions := by
  induction roundsLeft generalizing session with
  | zero =>
      have first := exchange_acquisitions env config session
      unfold exchanges
      split <;> (rename_i result; rwa [result] at first)
  | succ roundsLeft ih =>
      have first := exchange_acquisitions env config session
      unfold exchanges
      split
      · rename_i result
        rwa [result] at first
      · rename_i result
        rwa [result] at first
      · rename_i next result
        rw [result] at first
        exact (ih next).trans first

/-- An acquisition counts as one, however many exchanges it makes. -/
theorem fetch_acquisitions (env : Environment) (config : ClientConfig) (session : Session) :
    (fetch env config session).2.acquisitions = session.acquisitions + 1 := by
  rw [fetch, exchanges_acquisitions]
  exact List.count_append

/-- A token for use takes three calls of the token endpoint at most. -/
theorem Access.spends {env : Environment} {config : ClientConfig} {session later : Session}
    {source : Source} {result : Except Error AccessToken}
    (access : Access env config session source result later) :
    Spends 3 0 (3 * (config.retry.maxRetries + 1)) session later := by
  cases access with
  | reused _ looked | unknown looked =>
      obtain ⟨_, rfl⟩ := looked
      exact .nothing rfl rfl
  | @acquired _ waiting _ looked fetched | @failed _ waiting _ looked fetched =>
      have spends := (parts_spends env config).of_fetch waiting
      rw [fetched] at spends
      obtain ⟨_, rfl⟩ := looked
      exact ⟨spends.tokenCalls, spends.resourceCalls, spends.requests⟩

end Acquisition

end KeyBound
