import KeyBound.Proofs.Client.Undisturbed
import KeyBound.Proofs.Handshake.Conformance
import KeyBound.Proofs.Token.Response

/-!
# Acquisitions from servers that keep to the rules

Each exchange with such a server supplies one of the things that the client lacks, and one that
lacks nothing brings a token. There are two things to lack, so that the rounds of an acquisition
suffice.
-/

set_option autoImplicit false

namespace KeyBound

open Session

/-- An endpoint answers every request by the rules, whatever was sent before. -/
def Environment.Serves (env : Environment) (endpoint : Url) (required : Option String)
    (lasts : Int → Prop) : Prop :=
  ∀ before request, request.url = endpoint → ∃ response,
    (env.respond before request).outcome = .ok response ∧ Answers required lasts request response

/-- Between two sessions the clock may have shown an instant from which the calendar has no room for
an assertion, or for a nonce. -/
def Session.Overruns (env : Environment) (session later : Session) : Prop :=
  ∃ shown, Shows env session later shown ∧
    (shown.add? Assertion.lifetime = none ∨ shown.add? session.handshake.validity = none)

theorem Session.Overruns.after {env : Environment} {first second third : Session}
    {told : List Event} (overruns : Overruns env second third)
    (before : Follows first second told) :
    Overruns env first third := by
  obtain ⟨shown, shows, beyond⟩ := overruns
  rw [before.validity] at beyond
  exact ⟨shown, shows.widen before.til (.refl third), beyond⟩

/-- From all instants that the clock may show between two sessions, the calendar has room for some
lifetimes. -/
def Session.HasRoom (env : Environment) (lasts : Int → Prop) (session later : Session) : Prop :=
  ∀ seconds, lasts seconds → ∀ shown, Shows env session later shown →
    shown.add? (.ofSeconds seconds) ≠ none

theorem Session.HasRoom.narrow {env : Environment} {lasts : Int → Prop}
    {first second third last : Session} (room : HasRoom env lasts first last)
    (before : first.Until second) (after : third.Until last) : HasRoom env lasts second third :=
  fun seconds lasting shown shows => room seconds lasting shown (shows.widen before after)

namespace Acquisition

variable {env : Environment} {config : ClientConfig} {session : Session}
  {required : Option String} {lasts : Int → Prop}

/-- A client whose key can sign fails to make a token request only at the end of the calendar. The
request presents no token, and has no proof yet. -/
theorem request_of_canSign (canSign : config.key.canSign = true) (now : Instant) (draw : Draw) :
    (request config now draw = .error .beyondCalendar ∧ now.add? Assertion.lifetime = none) ∨
      ∃ made, request config now draw = .ok made ∧ made.headers.has "dpop" = false ∧
        Handshake.presented? made = none := by
  have asks := request_asks config now draw
  generalize request config now draw = answer at asks
  cases asks with
  | beyond later => exact .inl ⟨rfl, later⟩
  | unsignable _ unable => exact absurd (canSign.symm.trans unable) (by decide)
  | made =>
      -- The two headers of the request are neither a proof nor an authorization.
      refine .inr ⟨_, rfl, ?_, ?_⟩
      · simp only [Headers.has, Headers.get?, Request.withForm, Request.withHeader, Request.plain]
        rw [Headers.getAll_insert_of_ne (by decide), Headers.getAll_insert_of_ne (by decide)]
        rfl
      · simp only [Handshake.presented?, Headers.chars?, Headers.get?, Request.withForm,
          Request.withHeader, Request.plain]
        rw [Headers.getAll_insert_of_ne (by decide), Headers.getAll_insert_of_ne (by decide)]
        rfl

/-- The session in which an exchange makes its call. -/
def ready (env : Environment) (session : Session) : Session := ((session.look env).2.draw env).2

/-- What an exchange makes of the end of its call. -/
def conclude (env : Environment) :
    Except Error Response × Session → Except Error (Option AccessToken) × Session
  | (.error error, session) => (.error error, session)
  | (.ok response, session) =>
    match session.observe env response with
    | (.error error, session) => (.error error, session)
    | (.ok (some _), session) => (.ok none, session)
    | (.ok none, session) =>
      match TokenResponse.token (env.explain TokenResponse.Grant.decoder) response
          (session.now env) with
      | .error defect => (.error (.token defect), (session.look env).2)
      | .ok token => (.ok (some token), (session.look env).2)

theorem exchange_eq {made : Request}
    (requested : request config (session.now env) (env.draw session.draws) = .ok made) :
    exchange env config session =
      conclude env (Pipeline.run env config.retry .token made (ready env session)) := by
  have requested : request config (session.look env).1 ((session.look env).2.draw env).1 =
      .ok made := requested
  unfold exchange
  simp only [requested, Pipeline.runToken]
  change _ = conclude env (Pipeline.run env config.retry .token made
    ((session.look env).2.draw env).2)
  cases Pipeline.run env config.retry .token made ((session.look env).2.draw env).2 with
  | mk answer later =>
      cases answer with
      | error error => rfl
      | ok response =>
          simp only [conclude]
          cases later.observe env response with
          | mk taken after => rcases taken with error | (_ | step) <;> rfl

theorem conclude_follows (env : Environment) (answer : Except Error Response) (session : Session) :
    ∃ told, told.all Pipeline.isInner = true ∧
      Follows session (conclude env (answer, session)).2 told := by
  cases answer with
  | error error => exact ⟨[], rfl, .refl session⟩
  | ok response =>
      obtain ⟨told, inner, follows, _, _⟩ := observe_follows env response session
      simp only [conclude]
      cases observed : session.observe env response with
      | mk taken after =>
          rw [observed] at follows
          rcases taken with error | (_ | step)
          · exact ⟨told, inner, follows⟩
          · have looked : Follows session (after.look env).2 told :=
              ⟨follows.til.trans ⟨Nat.le_succ _, Nat.le_refl after.elapsed.nanos⟩,
                follows.validity, follows.events⟩
            dsimp only
            split <;> exact ⟨told, inner, looked⟩
          · exact ⟨told, inner, follows⟩

@[simp] theorem conclude_sent (env : Environment) (answer : Except Error Response)
    (session : Session) : (conclude env (answer, session)).2.sent = session.sent := by
  cases answer with
  | error error => rfl
  | ok response =>
      have unsent := observe_sent env response session
      simp only [conclude]
      cases observed : session.observe env response with
      | mk taken after =>
          rw [observed] at unsent
          rcases taken with error | (_ | step)
          · exact unsent
          · dsimp only
            split <;> exact unsent
          · exact unsent

section

variable {after : Session} {response : Response}

theorem conclude_of_advance {step : HandshakeStep} {later : Session}
    (observed : after.observe env response = (.ok (some step), later)) :
    conclude env (.ok response, after) = (.ok none, later) := by
  simp only [conclude, observed]

theorem conclude_of_error {error : Error} {later : Session}
    (observed : after.observe env response = (.error error, later)) :
    conclude env (.ok response, after) = (.error error, later) := by
  simp only [conclude, observed]

theorem conclude_of_proofless (env : Environment) (refused : response.status = 400)
    (asked : Demand.errorCode? response.body = some "invalid_dpop_proof")
    (absent : after.handshake.key = none) :
    ∃ fresh, (conclude env (.ok response, after)).1 = .ok none ∧
      (conclude env (.ok response, after)).2.handshake =
        { after.handshake with key := some fresh } := by
  obtain ⟨verdict, handshake, steps, rule, observed⟩ := observe_takes env response after
  obtain ⟨rfl, rfl⟩ := rule.of_proofless refused asked absent
  rw [conclude_of_advance observed]
  exact ⟨_, rfl, rfl⟩

theorem conclude_of_nonceless (env : Environment) {value : String}
    (refused : response.status = 400)
    (asked : Demand.errorCode? response.body = some "use_dpop_nonce")
    (absent : after.handshake.nonce = none)
    (supplied : Handshake.suppliedNonce? response = some value) :
    ((conclude env (.ok response, after)).1 = .error .beyondCalendar ∧
      (after.now env).add? after.handshake.validity = none) ∨
    ∃ fresh expiresAt, (after.now env).add? after.handshake.validity = some expiresAt ∧
      (conclude env (.ok response, after)).1 = .ok none ∧
      (conclude env (.ok response, after)).2.handshake =
        { after.handshake.withKey fresh with nonce := some ⟨value, expiresAt⟩ } := by
  obtain ⟨verdict, handshake, steps, rule, observed⟩ := observe_takes env response after
  rcases rule.of_nonceless refused asked absent supplied with
    ⟨rfl, expiry⟩ | ⟨expiresAt, expiry, rfl, rfl⟩
  · rw [conclude_of_error observed]
    exact .inl ⟨rfl, expiry⟩
  · rw [conclude_of_advance observed]
    exact .inr ⟨_, _, expiry, rfl, rfl⟩

theorem conclude_of_granted {grant : TokenResponse.Grant} {seconds : Int}
    (success : response.status = 200)
    (body : response.decode TokenResponse.Grant.decoder = .ok grant)
    (lifetime : grant.expiresIn = some seconds) (positive : 0 < seconds)
    (room : ∀ shown, Shows env after (conclude env (.ok response, after)).2 shown →
      shown.add? (.ofSeconds seconds) ≠ none) :
    ∃ token, (conclude env (.ok response, after)).1 = .ok (some token) ∧
      TokenResponse.Grants response token seconds ∧
      Shows env after (conclude env (.ok response, after)).2 token.issuedAt ∧
      (conclude env (.ok response, after)).2.handshake = after.handshake := by
  obtain ⟨verdict, handshake, steps, rule, observed⟩ := observe_takes env response after
  obtain ⟨rfl, rfl⟩ := rule.of_granted success
  obtain ⟨taken, received⟩ : ∃ taken, after.observe env response = (.ok none, taken) ∧
      after.Until taken ∧ taken.handshake = after.handshake :=
    ⟨_, observed, ⟨Nat.le_succ _, Nat.le_refl after.elapsed.nanos⟩, rfl⟩
  obtain ⟨observed, til, same⟩ := received
  have ended : (conclude env (.ok response, after)).2 = (taken.look env).2 := by
    simp only [conclude, observed]
    split <;> rfl
  have shows : Shows env after (taken.look env).2 (taken.now env) :=
    ⟨taken, til, ⟨Nat.le_succ _, Nat.le_refl taken.elapsed.nanos⟩, rfl⟩
  rw [ended] at room ⊢
  cases expiry : (taken.now env).add? (.ofSeconds seconds) with
  | none => exact absurd expiry (room _ shows)
  | some expiresAt =>
      have grants : TokenResponse.Grants response ⟨⟨grant.accessToken⟩, grant.tokenType,
          taken.now env, expiresAt, grant.scope, grant.idToken.map Secret.mk⟩ seconds := by
        refine ⟨by simp [Response.isSuccess, success], positive, expiry, body.trans ?_⟩
        obtain ⟨tokenType, expiresIn, accessToken, idToken, scope⟩ := grant
        obtain rfl : expiresIn = some seconds := lifetime
        cases idToken <;> rfl
      have token := grants.token_eq
      dsimp only at token
      simp only [conclude, observed, token]
      exact ⟨_, rfl, grants, shows, same⟩

end

/-! ## Exchanges -/

/-- A server keeps to the rules, and a client can ask it for tokens without trying again after an
answer that it gives. -/
structure Served (env : Environment) (config : ClientConfig) (required : Option String)
    (lasts : Int → Prop) : Prop where
  serves : env.Serves config.tokenEndpoint required lasts
  isNonce : ∀ nonce, required = some nonce → IsNonce nonce
  canSign : config.key.canSign = true
  granted : 200 ∉ config.retry.retriableStatuses
  refused : 400 ∉ config.retry.retriableStatuses

/-- Between two sessions some exchanges were made: calls of the token endpoint with one request
each. -/
structure Makes (exchanges : Nat) (session later : Session) : Prop where
  calls : later.calls .token = session.calls .token + exchanges
  requests : later.sent.length = session.sent.length + exchanges

theorem Makes.trans {first second third : Session} {exchanges more : Nat}
    (before : Makes exchanges first second) (after : Makes more second third) :
    Makes (exchanges + more) first third where
  calls := by rw [after.calls, before.calls, Nat.add_assoc]
  requests := by rw [after.requests, before.requests, Nat.add_assoc]

/-- The reply to the last request of a session grants a token, which was received since an earlier
session. -/
def Brings (env : Environment) (session later : Session) (token : AccessToken) : Prop :=
  ∃ reply response seconds, later.reply? env (later.sent.length - 1) = some reply ∧
    reply.outcome = .ok response ∧ TokenResponse.Grants response token seconds ∧
    Shows env session later token.issuedAt

/-- What an exchange comes to: it supplies one of the things that were missing, it brings a token if
nothing was, or the calendar ends. -/
inductive Round (env : Environment) (required : Option String) (session later : Session) :
    Except Error (Option AccessToken) → Prop where
  | supplied :
      later.handshake.missing required + 1 = session.handshake.missing required →
      later.handshake.Fits required →
      (∀ nonce, later.handshake.nonce = some nonce → Meets env nonce session later) →
      (∀ key, session.handshake.key = some key → later.handshake.key = some key) →
      Makes 1 session later → Round env required session later (.ok none)
  | granted {token : AccessToken} :
      session.handshake.missing required = 0 → later.handshake = session.handshake →
      Brings env session later token → Makes 1 session later →
      Round env required session later (.ok (some token))
  | overrun :
      Overruns env session later → Round env required session later (.error .beyondCalendar)

/-- A request was sent from a session with what its handshake held, and the server has reacted. -/
structure Answered (env : Environment) (required : Option String) (lasts : Int → Prop)
    (session after : Session) (response : Response) : Prop where
  sent : ∃ request, after.sent = session.sent ++ [(session.elapsed, request)] ∧
    (env.respond (session.sent.map (·.2)) request).outcome = .ok response
  reaction : Handshake.Reaction required lasts session.handshake response
  calls : after.calls .token = session.calls .token + 1
  til : session.Until after
  handshake : after.handshake = session.handshake

namespace Answered

variable {after : Session} {response : Response}

theorem makes (answered : Answered env required lasts session after response) :
    Makes 1 session (conclude env (.ok response, after)).2 where
  calls := by
    obtain ⟨told, inner, follows⟩ := conclude_follows env (.ok response) after
    rw [Session.calls, follows.events, List.count_append, Pipeline.count_span_of_isInner inner]
    exact answered.calls
  requests := by
    obtain ⟨request, sent, _⟩ := answered.sent
    rw [conclude_sent, sent, List.length_append]
    rfl

theorem round_of_proofAsked (answered : Answered env required lasts session after response)
    (absent : session.handshake.key = none) (noNonce : session.handshake.nonce = none)
    (refused : response.status = 400)
    (asked : Demand.errorCode? response.body = some "invalid_dpop_proof") :
    Round env required session (conclude env (.ok response, after)).2
      (conclude env (.ok response, after)).1 := by
  obtain ⟨fresh, ended, keyed⟩ := conclude_of_proofless env refused asked
    (answered.handshake ▸ absent)
  rw [answered.handshake] at keyed
  have nothing (nonce : HeldNonce) :
      (conclude env (.ok response, after)).2.handshake.nonce ≠ some nonce := by
    simp [keyed, noNonce]
  rw [ended]
  refine .supplied ?_ (fun nonce held => absurd held (nothing nonce))
    (fun nonce held => absurd held (nothing nonce)) ?_ answered.makes
  · simp [keyed, Handshake.missing, absent, noNonce, Nat.add_comm]
  · intro key held
    rw [absent] at held
    cases held

theorem round_of_nonceAsked {key : ProofKey} {value : String}
    (answered : Answered env required lasts session after response)
    (present : session.handshake.key = some key) (noNonce : session.handshake.nonce = none)
    (needed : required = some value) (refused : response.status = 400)
    (asked : Demand.errorCode? response.body = some "use_dpop_nonce")
    (supplied : Handshake.suppliedNonce? response = some value) :
    Round env required session (conclude env (.ok response, after)).2
      (conclude env (.ok response, after)).1 := by
  obtain ⟨told, _, follows⟩ := conclude_follows env (.ok response) after
  have shows : Shows env session (conclude env (.ok response, after)).2 (after.now env) :=
    ⟨after, answered.til, follows.til, rfl⟩
  rcases conclude_of_nonceless env refused asked (answered.handshake ▸ noNonce) supplied with
    ⟨ended, expiry⟩ | ⟨fresh, expiresAt, expiry, ended, accepted⟩
  · rw [answered.handshake] at expiry
    rw [ended]
    exact .overrun ⟨_, shows, .inr expiry⟩
  · rw [answered.handshake] at expiry
    rw [answered.handshake, Handshake.withKey, Handshake.keyOrNew, present,
      Option.getD_some] at accepted
    rw [ended]
    refine .supplied ?_ ?_ ?_ ?_ answered.makes
    · simp [accepted, Handshake.missing, present, noNonce, needed]
    · intro nonce held
      rw [accepted] at held ⊢
      cases held
      exact ⟨Option.some_ne_none _, fun _ same => Option.some.inj (needed.symm.trans same)⟩
    · intro nonce held
      rw [accepted] at held
      cases held
      exact .inr ⟨_, shows, Instant.add?_nanos expiry⟩
    · intro held same
      rw [accepted]
      exact present.symm.trans same

theorem round_of_granted {grant : TokenResponse.Grant} {seconds : Int}
    (answered : Answered env required lasts session after response)
    (room : HasRoom env lasts session (conclude env (.ok response, after)).2)
    (nothing : session.handshake.missing required = 0) (success : response.status = 200)
    (body : response.decode TokenResponse.Grant.decoder = .ok grant)
    (lifetime : grant.expiresIn = some seconds) (positive : 0 < seconds) (lasting : lasts seconds) :
    Round env required session (conclude env (.ok response, after)).2
      (conclude env (.ok response, after)).1 := by
  obtain ⟨token, ended, grants, shows, kept⟩ := conclude_of_granted success body lifetime positive
    ((room.narrow answered.til (.refl _)) seconds lasting)
  obtain ⟨request, sent, outcome⟩ := answered.sent
  have last : (conclude env (.ok response, after)).2.sent.length - 1 = session.sent.length := by
    rw [answered.makes.requests, Nat.add_sub_cancel]
  rw [ended]
  refine .granted nothing (kept.trans answered.handshake) ?_ answered.makes
  refine ⟨_, response, seconds, ?_, outcome, grants, shows.widen answered.til (.refl _)⟩
  rw [last]
  exact reply?_of_append ((conclude_sent env _ after).trans sent)

theorem round (answered : Answered env required lasts session after response)
    (room : HasRoom env lasts session (conclude env (.ok response, after)).2) :
    Round env required session (conclude env (.ok response, after)).2
      (conclude env (.ok response, after)).1 := by
  cases answered.reaction with
  | proofAsked absent noNonce refused asked =>
      exact answered.round_of_proofAsked absent noNonce refused asked
  | nonceAsked present noNonce needed refused asked supplied =>
      exact answered.round_of_nonceAsked present noNonce needed refused asked supplied
  | granted nothing success body lifetime positive lasting =>
      exact answered.round_of_granted room nothing success body lifetime positive lasting

end Answered

theorem ready_until (env : Environment) (session : Session) : session.Until (ready env session) :=
  ⟨Nat.le_succ _, Nat.le_refl session.elapsed.nanos⟩

/-- The call of an exchange that nothing disturbs is answered by the rules. -/
theorem run_answered {made : Request} (served : Served env config required lasts)
    (fits : session.handshake.Fits required) (addressed : made.url = config.tokenEndpoint)
    (proofless : made.headers.has "dpop" = false) (plain : Handshake.presented? made = none)
    (undisturbed : Undisturbed env (ready env session)
      (Pipeline.run env config.retry .token made (ready env session)).2) :
    ∃ response, (Pipeline.run env config.retry .token made (ready env session)).1 = .ok response ∧
      Answered env required lasts session
        (Pipeline.run env config.retry .token made (ready env session)).2 response := by
  -- Neither status is one to try again after, so that the call is a single attempt.
  have decided (before : List Request) (sent : Request) (same : sent.url = made.url) :
      ∃ response, (env.respond before sent).outcome = .ok response ∧
        response.status ∉ config.retry.retriableStatuses := by
    obtain ⟨response, outcome, answers⟩ := served.serves before sent (same.trans addressed)
    refine ⟨response, outcome, ?_⟩
    rcases answers.status_eq with status | status
    · exact status ▸ served.granted
    · exact status ▸ served.refused
  obtain ⟨response, outcome, ended, sent, kept, same⟩ :=
    Pipeline.run_of_undisturbed undisturbed decided
  have copied := session.handshake.prepare_isCopyOf (env.draw (ready env session).draws) .token
    ((ready env session).now env) made
  obtain ⟨_, answer, answers⟩ := served.serves (session.sent.map (·.2)) _
    (copied.url.trans addressed)
  obtain rfl := Except.ok.inj (outcome.symm.trans answer)
  have reaction : Handshake.Reaction required lasts session.handshake response := by
    cases present : session.handshake.key with
    | none =>
        rw [Handshake.prepare_of_keyless present] at answers
        exact Handshake.reaction_of_keyless answers fits present proofless
    | some key =>
        obtain ⟨proved, stated⟩ := Handshake.prepare_of_key (env.draw (ready env session).draws)
          ((ready env session).now env) present plain
        have unchanged : session.handshake.refresh .token ((ready env session).now env) =
            (session.handshake, []) := kept
        rw [unchanged] at stated
        exact Handshake.reaction_of_key answers fits served.isNonce present proved stated
  have calls := Pipeline.run_calls env config.retry .token made (ready env session) .token
  have til := Pipeline.run_until env config.retry .token made (ready env session)
  exact ⟨response, ended, ⟨_, sent, outcome⟩, reaction, calls, (ready_until env session).trans til,
    same⟩

theorem exchange_round (served : Served env config required lasts)
    (fits : session.handshake.Fits required)
    (undisturbed : Undisturbed env session (exchange env config session).2)
    (room : HasRoom env lasts session (exchange env config session).2) :
    Round env required session (exchange env config session).2
      (exchange env config session).1 := by
  rcases request_of_canSign served.canSign (session.now env) (env.draw session.draws) with
    ⟨failed, overrun⟩ | ⟨made, requested, proofless, plain⟩
  · have failed : request config (session.look env).1 ((session.look env).2.draw env).1 =
        .error .beyondCalendar := failed
    have ended : exchange env config session = (.error .beyondCalendar, ready env session) := by
      simp only [exchange, failed, ready]
    rw [ended]
    exact .overrun ⟨_, ⟨session, .refl session, ready_until env session, rfl⟩, .inl overrun⟩
  · rw [exchange_eq requested] at undisturbed room ⊢
    obtain ⟨told, _, follows⟩ := conclude_follows env
      (Pipeline.run env config.retry .token made (ready env session)).1
      (Pipeline.run env config.retry .token made (ready env session)).2
    have readied : Follows session (ready env session) [] :=
      ⟨ready_until env session, rfl, (List.append_nil _).symm⟩
    have til := (Pipeline.run_until env config.retry .token made (ready env session)).trans
      follows.til
    obtain ⟨response, ended, answered⟩ := run_answered served fits (request_url requested)
      proofless plain ((undisturbed.of_same readied til rfl).left follows)
    generalize Pipeline.run env config.retry .token made (ready env session) = ran at *
    obtain ⟨answer, after⟩ := ran
    obtain rfl : answer = .ok response := ended
    exact answered.round room

/-! ## Rounds until nothing is missing -/

theorem exchanges_follows_exchange (env : Environment) (config : ClientConfig)
    (roundsLeft : Nat) (session : Session) :
    ∃ told, Follows (exchange env config session).2 (exchanges env config roundsLeft session).2
      told := by
  unfold exchanges
  cases exchange env config session with
  | mk answer next =>
      rcases answer with error | (_ | token)
      · exact ⟨[], .refl next⟩
      · cases roundsLeft with
        | zero => exact ⟨[], .refl next⟩
        | succ roundsLeft =>
            obtain ⟨told, _, follows, _⟩ := exchanges_follows env config roundsLeft next
            exact ⟨told, follows⟩
      · exact ⟨[], .refl next⟩

/-- What a client has of an acquisition that ends with a token: it took an exchange for each thing
that was missing and one more, and there is a key, and the nonce that is required. -/
structure Satisfied (env : Environment) (required : Option String) (session later : Session)
    (token : AccessToken) : Prop where
  brings : Brings env session later token
  makes : Makes (1 + session.handshake.missing required) session later
  established : later.handshake.key ≠ none
  kept : ∀ key, session.handshake.key = some key → later.handshake.key = some key
  nonce : ∀ value, required = some value →
    ∃ nonce, later.handshake.nonce = some nonce ∧ nonce.value = value

theorem Satisfied.of_granted {later : Session} {token : AccessToken}
    (fits : session.handshake.Fits required) (nothing : session.handshake.missing required = 0)
    (same : later.handshake = session.handshake) (brings : Brings env session later token)
    (makes : Makes 1 session later) : Satisfied env required session later token := by
  obtain ⟨present, held⟩ := Handshake.missing_eq_zero_iff.mp nothing
  refine ⟨brings, by rwa [nothing], same ▸ present, fun key keyed => same ▸ keyed, ?_⟩
  intro value needed
  obtain ⟨nonce, holds⟩ := Option.ne_none_iff_exists'.mp
    (held (needed ▸ Option.some_ne_none _))
  exact ⟨nonce, same ▸ holds, (fits nonce holds).2 value needed⟩

theorem Satisfied.after {next later : Session} {token : AccessToken} {exchanges : Nat}
    (satisfied : Satisfied env required next later token) (til : session.Until next)
    (fewer : next.handshake.missing required + exchanges = session.handshake.missing required)
    (kept : ∀ key, session.handshake.key = some key → next.handshake.key = some key)
    (makes : Makes exchanges session next) : Satisfied env required session later token := by
  obtain ⟨⟨reply, response, seconds, last, outcome, grants, shows⟩, more, established, keeps,
    nonce⟩ := satisfied
  have total : exchanges + (1 + next.handshake.missing required) =
      1 + session.handshake.missing required := by
    omega
  refine ⟨⟨reply, response, seconds, last, outcome, grants, shows.widen til (.refl later)⟩,
    total ▸ makes.trans more, established, fun key keyed => keeps key (kept key keyed), nonce⟩

theorem exchanges_satisfied (served : Served env config required lasts) (roundsLeft : Nat)
    (fits : session.handshake.Fits required)
    (few : session.handshake.missing required ≤ roundsLeft)
    (undisturbed : Undisturbed env session (exchanges env config roundsLeft session).2)
    (room : HasRoom env lasts session (exchanges env config roundsLeft session).2) :
    (∃ token, (exchanges env config roundsLeft session).1 = .ok token ∧
      Satisfied env required session (exchanges env config roundsLeft session).2 token) ∨
    ((exchanges env config roundsLeft session).1 = .error .beyondCalendar ∧
      Overruns env session (exchanges env config roundsLeft session).2) := by
  -- On the rounds that are left: each exchange supplies something, of which there is no more.
  induction roundsLeft generalizing session with
  | zero =>
      obtain ⟨told, rest⟩ := exchanges_follows_exchange env config 0 session
      have round := exchange_round served fits (undisturbed.left rest)
        (room.narrow (.refl session) rest.til)
      unfold exchanges
      generalize exchange env config session = exchanged at round
      obtain ⟨answer, later⟩ := exchanged
      cases round with
      | supplied fewer => omega
      | granted nothing same brings makes =>
          exact .inl ⟨_, rfl, .of_granted fits nothing same brings makes⟩
      | overrun overruns => exact .inr ⟨rfl, overruns⟩
  | succ roundsLeft ih =>
      obtain ⟨told, rest⟩ := exchanges_follows_exchange env config (roundsLeft + 1) session
      obtain ⟨before, _, since, _⟩ := exchange_follows env config session
      have round := exchange_round served fits (undisturbed.left rest)
        (room.narrow (.refl session) rest.til)
      unfold exchanges at undisturbed room ⊢
      generalize exchange env config session = exchanged at *
      obtain ⟨answer, next⟩ := exchanged
      cases round with
      | supplied fewer fitsNext meets kept makes =>
          obtain ⟨_, _, follows, _⟩ := exchanges_follows env config roundsLeft next
          rcases ih fitsNext (by omega) (undisturbed.right since follows.til meets)
            (room.narrow since.til (.refl _)) with
            ⟨token, ended, satisfied⟩ | ⟨ended, overruns⟩
          · exact .inl ⟨token, ended, satisfied.after since.til fewer kept makes⟩
          · exact .inr ⟨ended, overruns.after since⟩
      | granted nothing same brings makes =>
          exact .inl ⟨_, rfl, .of_granted fits nothing same brings makes⟩
      | overrun overruns => exact .inr ⟨rfl, overruns⟩

/-- A server that keeps to the rules satisfies an acquisition that nothing disturbs, from any state
of the handshake: there is an exchange for the proof if there was no key, one for the nonce if it
was required and not held, and one that brings the token. What can prevent it is the end of the
calendar only. -/
theorem fetch_satisfied (session : Session) :
    let later := (fetch env config session).2
    Served env config required (fun seconds => ∀ shown, Shows env session later shown →
      shown.add? (.ofSeconds seconds) ≠ none) →
    session.handshake.Fits required → Undisturbed env session later →
    session.handshake.missing required ≤ 2 ∧
      ((∃ token, (fetch env config session).1 = .ok token ∧
        Satisfied env required session later token) ∨
      ((fetch env config session).1 = .error .beyondCalendar ∧ Overruns env session later)) := by
  intro later served fits undisturbed
  let began := session.tell [.span .token .clientCredentials]
  have opened : Follows session began [.span .token .clientCredentials] :=
    ⟨⟨Nat.le_refl _, Nat.le_refl session.elapsed.nanos⟩, rfl, rfl⟩
  have few : session.handshake.missing required ≤ 2 := by
    unfold Handshake.missing
    split <;> split <;> omega
  refine ⟨few, ?_⟩
  have start : Makes 0 session began := ⟨by simp [Session.calls, began, Session.tell], rfl⟩
  have fitsToo : began.handshake.Fits required := fits
  obtain ⟨_, _, follows, _⟩ := exchanges_follows env config maxRounds began
  rcases exchanges_satisfied served maxRounds fitsToo few
    (undisturbed.of_same opened follows.til rfl) fun seconds lasting shown shows =>
      lasting shown (shows.widen opened.til (.refl later)) with
    ⟨token, ended, satisfied⟩ | ⟨ended, overruns⟩
  · exact .inl ⟨token, ended, satisfied.after opened.til rfl (fun _ keyed => keyed) start⟩
  · exact .inr ⟨ended, overruns.after opened⟩

/-! ## A server that keeps to the rules -/

def refusalBody (code : String) : Bytes := utf8 ("\x7b\"error\":\"" ++ code ++ "\"\x7d")

def epoch : Instant := ⟨0, inCalendar_zero⟩

/-- A server that asks for a proof, and for a nonce in it if it requires one. Its clock stands
still. -/
def strict (required : Option String) : Environment where
  respond _ request :=
    if request.headers.has "dpop" = false then
      ⟨.zero, .ok ⟨400, [], refusalBody "invalid_dpop_proof"⟩⟩
    else
      match required with
      | none => Reply.granting "at-1"
      | some nonce =>
        if Proof.statedNonce? request = some nonce then Reply.granting "at-1"
        else ⟨.zero, .ok ⟨400, [("dpop-nonce", .ofAscii nonce)], refusalBody "use_dpop_nonce"⟩⟩
  clock _ _ := epoch
  draw := .numbered
  explain _ _ := .silent
  cancelAt := none

theorem strict_serves (endpoint : Url) {required : Option String} {lasts : Int → Prop}
    (hour : lasts 3600) : (strict required).Serves endpoint required lasts := by
  intro before request _
  have noProof : Demand.errorCode? (refusalBody "invalid_dpop_proof") =
      some "invalid_dpop_proof" := by
    decide +kernel
  have noNonce : Demand.errorCode? (refusalBody "use_dpop_nonce") = some "use_dpop_nonce" := by
    decide +kernel
  have grants (proved : request.headers.has "dpop" = true)
      (states : ∀ nonce, required = some nonce → Proof.statedNonce? request = some nonce) :
      ∃ response, (Reply.granting "at-1").outcome = .ok response ∧
        Answers required lasts request response :=
    ⟨_, rfl, @Answers.granted _ _ _ _ ⟨"Bearer", some 3600, "at-1", none, none⟩ 3600 proved states
      rfl (by decide +kernel) rfl (by decide) hour⟩
  cases proved : request.headers.has "dpop" with
  | false =>
      simp only [strict, proved, if_true]
      exact ⟨_, rfl, .proofless proved rfl noProof⟩
  | true =>
      simp only [strict, proved]
      cases required with
      | none =>
          refine grants proved fun nonce needed => ?_
          cases needed
      | some nonce =>
          by_cases states : Proof.statedNonce? request = some nonce
          · simp only [states, if_true]
            exact grants proved fun _ same => states.trans same
          · simp only [states, if_false]
            exact ⟨_, rfl, .nonceless proved rfl states rfl noNonce rfl⟩

theorem eq_of_shows_strict {later : Session} {shown : Instant}
    (shows : Shows (strict required) session later shown) : shown = epoch := by
  obtain ⟨between, _, _, rfl⟩ := shows
  rfl

theorem strict_undisturbed {later : Session} (fresh : session.handshake.nonce = none)
    (positive : 0 < session.handshake.validity.nanos) :
    Undisturbed (strict required) session later := by
  refine ⟨rfl, ?_⟩
  rintro ⟨nonce, _, held | ⟨accepted, accepts, expiry⟩, ⟨due, shows, expired⟩, _⟩
  · rw [fresh] at held
    cases held
  · rw [eq_of_shows_strict shows] at expired
    rw [eq_of_shows_strict accepts] at expiry
    have passed : nonce.expiresAt.nanos ≤ 0 := expired
    rw [expiry] at passed
    exact absurd passed (Int.not_le.mpr (by simpa [epoch] using positive))

theorem strict_served (session later : Session)
    (isNonce : ∀ nonce, required = some nonce → IsNonce nonce)
    (canSign : config.key.canSign = true) (granted : 200 ∉ config.retry.retriableStatuses)
    (refused : 400 ∉ config.retry.retriableStatuses) :
    Served (strict required) config required fun seconds => ∀ shown,
      Shows (strict required) session later shown → shown.add? (.ofSeconds seconds) ≠ none := by
  refine ⟨strict_serves _ fun shown shows => ?_, isNonce, canSign, granted, refused⟩
  rw [eq_of_shows_strict shows]
  decide

/-- A client with nothing at hand is asked for a proof and for a nonce before there is a token. -/
theorem fetch_satisfied_strict :
    let session := Session.start ClientConfig.sample.nonceValidity
    session.handshake.missing (some "n-1") = 2 ∧
      ∃ token, (fetch (strict (some "n-1")) ClientConfig.sample session).1 = .ok token ∧
        Satisfied (strict (some "n-1")) (some "n-1") session
          (fetch (strict (some "n-1")) ClientConfig.sample session).2 token := by
  intro session
  have isNonce (nonce : String) (needed : some "n-1" = some nonce) : IsNonce nonce := by
    cases needed
    exact ⟨by decide, by simp, by decide +kernel⟩
  have fits : session.handshake.Fits (some "n-1") := by
    intro nonce held
    cases held
  have room : ¬ (epoch.add? Assertion.lifetime = none ∨
      epoch.add? session.handshake.validity = none) := by
    decide
  have canSign : ClientConfig.sample.key.canSign = true := by decide +kernel
  have granted : 200 ∉ ClientConfig.sample.retry.retriableStatuses := by decide
  have refused : 400 ∉ ClientConfig.sample.retry.retriableStatuses := by decide
  obtain ⟨_, ⟨token, ended, satisfied⟩ | ⟨_, shown, shows, beyond⟩⟩ :=
    fetch_satisfied session (strict_served session _ isNonce canSign granted refused) fits
      (strict_undisturbed rfl (by decide))
  · exact ⟨rfl, token, ended, satisfied⟩
  · rw [eq_of_shows_strict shows] at beyond
    exact absurd beyond room

private def endless : Span := .ofSeconds 9223372036854775807

/-- The calendar does end an acquisition: here the server asks for a proof and then for a nonce, and
has the token ready, but the nonce would be held beyond the last instant. -/
example :
    (fetch (.ofScript ⟨[⟨.zero, .ok ⟨400, [], refusalBody "invalid_dpop_proof"⟩⟩,
        ⟨.zero, .ok ⟨400, [("dpop-nonce", .ofAscii "n-1")], refusalBody "use_dpop_nonce"⟩⟩,
        .granting "at-1"], none⟩)
      { ClientConfig.sample with nonceValidity := endless } (.start endless)).1 =
      .error .beyondCalendar := by
  decide +kernel

end Acquisition

end KeyBound
