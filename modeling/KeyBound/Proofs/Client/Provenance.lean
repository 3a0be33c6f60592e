import KeyBound.Proofs.Client.Rounds

/-!
# Where tokens come from

Calls and acquisitions leave the token that a client has alone. An acquired token is that of a
response to a request which the acquisition sent itself.
-/

set_option autoImplicit false

namespace KeyBound

open Session

variable {env : Environment} {config : ClientConfig}

/-! ## The token that a client has -/

namespace Pipeline

variable {settings : RetrySettings} {target : Target} {request : Request}

theorem attemptOnce_cached (env : Environment) (settings : RetrySettings) (target : Target)
    (request : Request) (attempt : Nat) (retryFor : Option HeaderValue) (session : Session) :
    (attemptOnce env settings target request attempt retryFor session).2.cached =
      session.cached := by
  unfold attemptOnce
  split
  · rfl
  · dsimp only
    obtain ⟨elapsed, sent, _, same⟩ := exchange_eq env
      (session.prepare env target (tagged settings attempt retryFor request)).1
      ((session.prepare env target (tagged settings attempt retryFor request)).2.tell
        [.counted target.kind .attempt])
    rw [same, prepare_eq]
    rfl

theorem run_cached (env : Environment) (settings : RetrySettings) (target : Target)
    (request : Request) (session : Session) :
    (run env settings target request session).2.cached = session.cached := by
  have parts : Parts env settings target request fun session later =>
      later.cached = session.cached := by
    constructor
    · intro session
      rfl
    · intro first second third before after
      exact after.trans before
    · intro session events _
      rfl
    · intro session delay
      obtain ⟨elapsed, _, same⟩ := wait_eq env delay session
      rw [same]
    · exact fun session attempt retryFor =>
        attemptOnce_cached env settings target request attempt retryFor session
  exact parts.of_run session

theorem runToken_cached (env : Environment) (settings : RetrySettings) (request : Request)
    (session : Session) :
    (runToken env settings request session).2.cached = session.cached := by
  have ran := run_cached env settings .token request session
  rw [runToken_eq]
  split
  · exact ran
  · rename_i response _
    obtain ⟨_, _, _, _, observed⟩ :=
      observe_takes env response (run env settings .token request session).2
    rw [observed]
    exact ran

end Pipeline

namespace Acquisition

theorem parts_cached (env : Environment) (config : ClientConfig) :
    Parts env config fun _ session later => later.cached = session.cached where
  trans before after := after.trans before
  weaken _ same := same
  looked _ := rfl
  drawn _ := rfl
  told _ := rfl
  called session made _ := Pipeline.runToken_cached env config.retry made session

theorem exchange_cached (env : Environment) (config : ClientConfig) (session : Session) :
    (exchange env config session).2.cached = session.cached :=
  (parts_cached env config).of_exchange session

theorem fetch_cached (env : Environment) (config : ClientConfig) (session : Session) :
    (fetch env config session).2.cached = session.cached :=
  (parts_cached env config).of_fetch session

theorem Access.cached_of_ok {session later : Session} {source : Source} {token : AccessToken}
    (access : Access env config session source (.ok token) later) :
    later.cached = some token := by
  cases access with
  | reused cached looked =>
      obtain ⟨_, rfl⟩ := looked
      exact cached
  | acquired => rfl

theorem Access.cached_of_error {session later : Session} {source : Source} {error : Error}
    (access : Access env config session source (.error error) later) :
    later.cached = session.cached := by
  cases access with
  | unknown looked =>
      obtain ⟨_, rfl⟩ := looked
      rfl
  | @failed _ waiting _ looked fetched =>
      have kept := fetch_cached env config waiting
      rw [fetched] at kept
      obtain ⟨_, rfl⟩ := looked
      exact kept

end Acquisition

/-! ## The response that a token is from -/

namespace Session

/-- Between two sessions a request to a URL was sent and answered by some response. -/
def Receives (env : Environment) (url : Url) (response : Response) (session later : Session) :
    Prop :=
  ∃ position entry reply, session.sent.length ≤ position ∧
    later.sent[position]? = some entry ∧ entry.2.url = url ∧
    later.reply? env position = some reply ∧ reply.outcome = .ok response

variable {url : Url} {response : Response} {first second third : Session}

theorem Receives.widen {inner outer : Session} (receives : Receives env url response first second)
    (before : inner.sent <+: first.sent) (after : second.sent <+: outer.sent) :
    Receives env url response inner outer := by
  obtain ⟨position, entry, reply, begun, placed, addressed, replied, answered⟩ := receives
  have inside := lt_of_reply? replied
  refine ⟨position, entry, reply, Nat.le_trans before.length_le begun, ?_, addressed, ?_, answered⟩
  · obtain ⟨rest, whole⟩ := after
    rw [← whole, List.getElem?_append_left inside]
    exact placed
  · exact (reply?_of_grows after inside).trans replied

end Session

namespace Pipeline

variable {settings : RetrySettings} {target : Target} {request : Request}

theorem attemptOnce_receives {attempt : Nat} {retryFor : Option HeaderValue}
    {session after : Session} {outcome : Outcome} {response : Response}
    (attempted : attemptOnce env settings target request attempt retryFor session =
      (some outcome, after)) (ended : result outcome = .ok response) :
    Receives env request.url response session after := by
  obtain ⟨prepared, grown, same, _⟩ := attemptOnce_some attempted
  have replied : after.reply? env session.sent.length = some _ := reply?_of_append grown
  have sends := attemptOnce_sendsOnly env settings target request attempt retryFor session
  rw [attempted] at sends
  obtain ⟨entry, placed, outgoing⟩ := sends.at_position (Nat.le_refl _) (lt_of_reply? replied)
  refine ⟨_, entry, _, Nat.le_refl _, placed, outgoing.isCopyOf.url, replied, ?_⟩
  cases outcome with
  | error failure => cases ended
  | ok answer =>
      cases ended
      exact same.symm

theorem Course.receives {began : Delay} {attempt : Nat} {retryFor : Option HeaderValue}
    {session final : Session} {answer : Except Error Response}
    (course : Course env settings target request began attempt retryFor session answer final)
    {response : Response} (ended : answer = .ok response) :
    Receives env request.url response session final := by
  induction course with
  | cancelled | interrupted => cases ended
  | final attempted => exact attemptOnce_receives attempted ended
  | overBudget attempted =>
      exact (attemptOnce_receives attempted ended).widen (List.prefix_refl _) (List.prefix_refl _)
  | @again attempt retryFor session _ later _ _ _ _ attempted _ _ waited _ ih =>
      have grown : session.sent <+: later.sent := by
        have sends := attemptOnce_sendsOnly env settings target request attempt retryFor session
        have unchanged := congrArg (·.2.sent) waited
        simp only [wait_sent, tell_sent] at unchanged
        rw [attempted] at sends
        exact unchanged ▸ sends.sent_grows
      exact (ih ended).widen grown (List.prefix_refl _)

theorem run_receives {session later : Session} {response : Response}
    (ran : run env settings target request session = (.ok response, later)) :
    Receives env request.url response session later := by
  obtain ⟨final, told, whole, course⟩ := run_course env settings target request session
  rw [ran] at whole
  dsimp only at whole
  rw [whole]
  exact course.receives (congrArg Prod.fst ran)

theorem runToken_receives {session later : Session} {response : Response}
    (ran : runToken env settings request session = (.ok (.completed response), later)) :
    Receives env request.url response session later := by
  rw [runToken_eq] at ran
  split at ran
  · cases ran
  · rename_i answer answered
    have received := run_receives (Prod.ext answered rfl)
    dsimp only at ran
    obtain ⟨ended, rfl⟩ := Prod.mk.inj ran
    obtain rfl : answer = response := by
      cases taken : ((run env settings .token request session).2.observe env answer).1 with
      | error error => simp [taken, Except.map] at ended
      | ok step =>
          cases step with
          | none => simpa [taken, Except.map, TokenExchange.ofStep] using ended
          | some step => simp [taken, Except.map, TokenExchange.ofStep] at ended
    refine received.widen (List.prefix_refl _) ?_
    simp only [observe_sent, List.prefix_refl]

end Pipeline

namespace Acquisition

/-- Between two sessions a token was issued: the token endpoint was asked for it, and the token is
that of the response, at an instant that the clock showed. -/
def Issues (env : Environment) (config : ClientConfig) (token : AccessToken)
    (session later : Session) : Prop :=
  ∃ response now, Receives env config.tokenEndpoint response session later ∧
    Shows env session later now ∧
    TokenResponse.token (env.explain TokenResponse.Grant.decoder) response now = .ok token

theorem Issues.widen {token : AccessToken} {first second inner outer : Session}
    (issues : Issues env config token first second) (before : inner.Until first)
    (after : second.Until outer) (sentBefore : inner.sent <+: first.sent)
    (sentAfter : second.sent <+: outer.sent) : Issues env config token inner outer := by
  obtain ⟨response, now, receives, shows, taken⟩ := issues
  exact ⟨response, now, receives.widen sentBefore sentAfter, shows.widen before after, taken⟩

theorem exchange_issues {session later : Session} {token : AccessToken}
    (ended : exchange env config session = (.ok (some token), later)) :
    Issues env config token session later := by
  unfold exchange at ended
  dsimp only at ended
  split at ended
  · cases ended
  · rename_i made requested
    obtain ⟨_, _, follows, _, _⟩ := Pipeline.runToken_follows env config.retry made
      ((session.look env).2.draw env).2
    split at ended
    · cases ended
    · cases ended
    · rename_i response answered ran
      have receives := Pipeline.runToken_receives ran
      rw [ran] at follows
      rw [request_url requested] at receives
      have ready : session.Until ((session.look env).2.draw env).2 :=
        ⟨Nat.le_succ _, Nat.le_refl session.elapsed.nanos⟩
      have seen : answered.Until (answered.look env).2 :=
        ⟨Nat.le_succ _, Nat.le_refl answered.elapsed.nanos⟩
      have til : session.Until answered := ready.trans follows.til
      split at ended
      · cases ended
      · rename_i mapped
        cases ended
        exact ⟨response, answered.now env, receives.widen (List.prefix_refl _) (List.prefix_refl _),
          ⟨answered, til, seen, rfl⟩, mapped⟩

theorem exchanges_issues {roundsLeft : Nat} {session later : Session} {token : AccessToken}
    (ended : exchanges env config roundsLeft session = (.ok token, later)) :
    Issues env config token session later := by
  induction roundsLeft generalizing session with
  | zero =>
      unfold exchanges at ended
      split at ended
      · cases ended
      · rename_i exchanged
        cases ended
        exact exchange_issues exchanged
      · cases ended
  | succ roundsLeft ih =>
      have til (session : Session) : session.Until (exchange env config session).2 := by
        obtain ⟨_, _, follows, _, _⟩ := exchange_follows env config session
        exact follows.til
      have sends := (parts_sendsTo env config).of_exchange session
      unfold exchanges at ended
      split at ended
      · cases ended
      · rename_i exchanged
        cases ended
        exact exchange_issues exchanged
      · rename_i next exchanged
        have earlier := til session
        rw [exchanged] at sends earlier
        exact (ih ended).widen earlier (.refl later)
          (SendsTo.iff_sendsOnly.mp sends).sent_grows (List.prefix_refl _)

theorem fetch_issues {session later : Session} {token : AccessToken}
    (ended : fetch env config session = (.ok token, later)) :
    Issues env config token session later := by
  have told : session.Until (session.tell [.span .token .clientCredentials]) :=
    ⟨Nat.le_refl _, Nat.le_refl session.elapsed.nanos⟩
  exact (exchanges_issues ended).widen told (.refl later) (List.prefix_refl _) (List.prefix_refl _)

/-- A token that a client without one comes by was issued to it then. -/
theorem Access.issues {session later : Session} {token : AccessToken}
    (access : Access env config session .endpoint (.ok token) later) :
    Issues env config token session later := by
  cases access with
  | @acquired _ waiting between looked fetched =>
      obtain ⟨more, rfl⟩ := looked
      have waited : session.Until { session with looks := session.looks + more } :=
        ⟨Nat.le_add_right _ _, Nat.le_refl session.elapsed.nanos⟩
      have kept : between.Until { between with cached := some token } :=
        ⟨Nat.le_refl _, Nat.le_refl between.elapsed.nanos⟩
      exact (fetch_issues fetched).widen waited kept (List.prefix_refl _) (List.prefix_refl _)

end Acquisition

end KeyBound
