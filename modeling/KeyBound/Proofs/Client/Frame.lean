import KeyBound.Client.Api
import KeyBound.Proofs.Client.Course
import KeyBound.Proofs.Http.Header

/-!
# What calls keep

What holds across a whole call because it holds across each of its parts, and which requests the
operations of a client send: a call sends its own request, an acquisition sends to the token
endpoint, and a request that presents a token may need both.
-/

set_option autoImplicit false

namespace KeyBound

namespace Pipeline

variable {env : Environment} {settings : RetrySettings} {target : Target} {request : Request}
  {R : Session → Session → Prop} {session : Session}

/-- Whether an event is one that a call tells between its beginning and its end. -/
def isInner : Event → Bool
  | .span _ _ => false
  | _ => true

/-- A relation between sessions that holds across every part of a call. -/
structure Parts (env : Environment) (settings : RetrySettings) (target : Target)
    (request : Request) (R : Session → Session → Prop) : Prop where
  refl : ∀ session, R session session
  trans : ∀ {first second third}, R first second → R second third → R first third
  told : ∀ session events, events.all isInner = true → R session (session.tell events)
  waited : ∀ session delay, R session (session.wait env delay).2
  attempted : ∀ session attempt retryFor,
    R session (attemptOnce env settings target request attempt retryFor session).2

namespace Parts

private theorem of_attempt (parts : Parts env settings target request R)
    {session after : Session} {attempt : Nat} {retryFor : Option HeaderValue}
    {outcome : Option Outcome}
    (attempted : attemptOnce env settings target request attempt retryFor session =
      (outcome, after)) : R session after := by
  have made := parts.attempted session attempt retryFor
  rwa [attempted] at made

theorem of_delay (parts : Parts env settings target request R)
    {session after later : Session} {attempt : Nat} {retryFor : Option HeaderValue}
    {outcome : Outcome} {delay : Delay} {passed : Bool}
    (attempted : attemptOnce env settings target request attempt retryFor session =
      (some outcome, after))
    (waited : ((after.tell
        [.delayChosen attempt delay.millis (RetrySettings.isRateLimited outcome)]).tell
        [.retrying attempt delay.millis, .counted target.kind .retry]).wait env delay =
          (passed, later)) :
    R session later := by
  let chosen := after.tell
    [.delayChosen attempt delay.millis (RetrySettings.isRateLimited outcome)]
  let retrying := chosen.tell [.retrying attempt delay.millis, .counted target.kind .retry]
  have first : R session after := parts.of_attempt attempted
  have second : R after chosen := parts.told after _ rfl
  have third : R chosen retrying := parts.told chosen _ rfl
  have fourth := parts.waited retrying delay
  rw [waited] at fourth
  exact parts.trans (parts.trans (parts.trans first second) third) fourth

theorem of_course (parts : Parts env settings target request R) {began : Delay} {attempt : Nat}
    {retryFor : Option HeaderValue} {session final : Session} {answer : Except Error Response}
    (course : Course env settings target request began attempt retryFor session answer final) :
    R session final := by
  induction course with
  | cancelled attempted => exact parts.of_attempt attempted
  | final attempted => exact parts.of_attempt attempted
  | overBudget attempted => exact parts.trans (parts.of_attempt attempted) (parts.told _ _ rfl)
  | interrupted attempted _ _ waited => exact parts.of_delay attempted waited
  | again attempted _ _ waited _ ih => exact parts.trans (parts.of_delay attempted waited) ih

theorem of_run (parts : Parts env settings target request R) (session : Session) :
    R (session.tell [.span target.kind .pipeline])
      (run env settings target request session).2 := by
  have course := attempts_course env settings target request session.elapsed
    (Nat.le_refl settings.maxRetries) none (session.tell [.span target.kind .pipeline])
  exact parts.trans (parts.of_course course) (parts.told _ _ rfl)

end Parts

end Pipeline

/-! ## Requests that are sent -/

namespace Session

@[simp] theorem observe_sent (env : Environment) (response : Response) (session : Session) :
    (session.observe env response).2.sent = session.sent := by
  unfold observe
  dsimp only
  split <;> rfl

variable {first second third : Session}

/-- From one session to a later one, requests of some kind were sent and no others. -/
def SendsOnly (allowed : Request → Prop) (session later : Session) : Prop :=
  ∃ sent, later.sent = session.sent ++ sent ∧ ∀ entry ∈ sent, allowed entry.2

namespace SendsOnly

variable {allowed : Request → Prop}

theorem of_sent (same : second.sent = first.sent) : SendsOnly allowed first second :=
  ⟨[], by simpa using same, by simp⟩

theorem trans (earlier : SendsOnly allowed first second) (later : SendsOnly allowed second third) :
    SendsOnly allowed first third := by
  obtain ⟨before, grown, allowedBefore⟩ := earlier
  obtain ⟨after, grownAgain, allowedAfter⟩ := later
  refine ⟨before ++ after, by rw [grownAgain, grown, List.append_assoc], ?_⟩
  intro entry member
  rcases List.mem_append.mp member with early | late
  · exact allowedBefore entry early
  · exact allowedAfter entry late

theorem mono {wider : Request → Prop} (sends : SendsOnly allowed first second)
    (covers : ∀ request, allowed request → wider request) : SendsOnly wider first second := by
  obtain ⟨sent, grown, inside⟩ := sends
  exact ⟨sent, grown, fun entry member => covers _ (inside entry member)⟩

theorem sent_grows (sends : SendsOnly allowed first second) : first.sent <+: second.sent := by
  obtain ⟨sent, grown, _⟩ := sends
  exact ⟨sent, grown.symm⟩

/-- The requests that were sent in between are those from some position on. -/
theorem at_position (sends : SendsOnly allowed first second) {position : Nat}
    (begun : first.sent.length ≤ position) (inside : position < second.sent.length) :
    ∃ entry, second.sent[position]? = some entry ∧ allowed entry.2 := by
  obtain ⟨sent, grown, every⟩ := sends
  refine ⟨second.sent[position], List.getElem?_eq_getElem inside, every _ ?_⟩
  simp only [grown, List.getElem_append_right begun]
  exact List.getElem_mem _

end SendsOnly

variable {allowed : Url → Prop}

def SendsTo (allowed : Url → Prop) (session later : Session) : Prop :=
  ∃ sent, later.sent = session.sent ++ sent ∧ ∀ entry ∈ sent, allowed entry.2.url

namespace SendsTo

theorem iff_sendsOnly :
    SendsTo allowed first second ↔ SendsOnly (fun request => allowed request.url) first second :=
  Iff.rfl

theorem of_sent (same : second.sent = first.sent) : SendsTo allowed first second :=
  iff_sendsOnly.mpr (.of_sent same)

theorem trans (earlier : SendsTo allowed first second) (later : SendsTo allowed second third) :
    SendsTo allowed first third :=
  iff_sendsOnly.mpr ((iff_sendsOnly.mp earlier).trans (iff_sendsOnly.mp later))

theorem mono {wider : Url → Prop} (sends : SendsTo allowed first second)
    (covers : ∀ url, allowed url → wider url) : SendsTo wider first second :=
  iff_sendsOnly.mpr ((iff_sendsOnly.mp sends).mono fun _ => covers _)

end SendsTo

end Session

open Session

/-! ## Copies of a request -/

namespace Request

def clientHeaders : List String :=
  ["authorization", "dpop", Pipeline.retryCountHeader, Pipeline.retryForHeader]

/-- A request is another one but for the headers that a client sets on its own. -/
structure IsCopyOf (copy request : Request) : Prop where
  method : copy.method = request.method
  url : copy.url = request.url
  body : copy.body = request.body
  headers : ∀ name, Headers.fold name ∉ clientHeaders →
    copy.headers.getAll name = request.headers.getAll name

variable {first second third : Request}

theorem IsCopyOf.refl (request : Request) : request.IsCopyOf request :=
  ⟨rfl, rfl, rfl, fun _ _ => rfl⟩

theorem IsCopyOf.trans (copy : third.IsCopyOf second) (copied : second.IsCopyOf first) :
    third.IsCopyOf first where
  method := copy.method.trans copied.method
  url := copy.url.trans copied.url
  body := copy.body.trans copied.body
  headers name other := (copy.headers name other).trans (copied.headers name other)

theorem withHeader_isCopyOf (request : Request) {name : String}
    (own : Headers.fold name ∈ clientHeaders) (value : HeaderValue) :
    (request.withHeader name value).IsCopyOf request where
  method := rfl
  url := rfl
  body := rfl
  headers other outside := by
    apply Headers.getAll_insert_of_ne
    intro same
    exact outside (same ▸ own)

end Request

open Request

namespace Handshake

theorem claim_isCopyOf (nonce : Option String) (target : Target) (claims : ProofClaims)
    (request : Request) : (claim nonce target claims request).2.IsCopyOf request := by
  unfold claim
  split
  · exact withHeader_isCopyOf request (by decide) _
  · split <;> exact .refl request

theorem prepare_isCopyOf (handshake : Handshake) (draw : Draw) (target : Target) (now : Instant)
    (request : Request) : (handshake.prepare draw target now request).1.IsCopyOf request := by
  unfold prepare
  dsimp only
  split
  · exact .refl request
  · exact (withHeader_isCopyOf _ (by decide) _).trans (claim_isCopyOf _ _ _ request)

/-- A proof and the scheme of the authorization are all that a handshake changes. -/
theorem prepare_getAll (handshake : Handshake) (draw : Draw) (target : Target) (now : Instant)
    (request : Request) {name : String} (other : Headers.fold name ∉ ["authorization", "dpop"]) :
    (handshake.prepare draw target now request).1.headers.getAll name =
      request.headers.getAll name := by
  have claimed (nonce : Option String) (claims : ProofClaims) :
      (claim nonce target claims request).2.headers.getAll name = request.headers.getAll name := by
    unfold claim
    split
    · refine Headers.getAll_insert_of_ne (fun same => other ?_) _ _
      rw [← same]
      decide
    · split <;> rfl
  unfold prepare
  dsimp only
  split
  · rfl
  · refine (Headers.getAll_insert_of_ne (fun same => other ?_) _ _).trans (claimed _ _)
    rw [← same]
    decide

end Handshake

namespace Pipeline

variable {settings : RetrySettings} {target : Target} {request : Request}

theorem tagged_isCopyOf (settings : RetrySettings) (attempt : Nat) (retryFor : Option HeaderValue)
    (request : Request) : (tagged settings attempt retryFor request).IsCopyOf request := by
  have counted (value : HeaderValue) :
      (request.withHeader retryCountHeader value).IsCopyOf request :=
    withHeader_isCopyOf request (by decide) value
  unfold tagged
  split
  · cases retryFor with
    | none => exact counted _
    | some id => exact (withHeader_isCopyOf _ (by decide) id).trans (counted _)
  · exact .refl request

/-- The number of an attempt and the first name are all that a tag changes. -/
theorem tagged_getAll (settings : RetrySettings) (attempt : Nat) (retryFor : Option HeaderValue)
    (request : Request) {name : String}
    (other : Headers.fold name ∉ [retryCountHeader, retryForHeader]) :
    (tagged settings attempt retryFor request).headers.getAll name =
      request.headers.getAll name := by
  have counted (value : HeaderValue) :
      (request.withHeader retryCountHeader value).headers.getAll name =
        request.headers.getAll name := by
    refine Headers.getAll_insert_of_ne (fun same => other ?_) _ _
    rw [← same]
    decide
  unfold tagged
  split
  · cases retryFor with
    | none => exact counted _
    | some id =>
        refine (Headers.getAll_insert_of_ne (fun same => other ?_) _ _).trans (counted _)
        rw [← same]
        decide
  · rfl

/-- A request as an attempt sends it: tagged, and prepared by the handshake of that time. -/
inductive Outgoing (settings : RetrySettings) (target : Target) (request : Request) :
    Request → Prop where
  | prepared (handshake : Handshake) (draw : Draw) (now : Instant) (attempt : Nat)
      (retryFor : Option HeaderValue) :
      Outgoing settings target request
        (handshake.prepare draw target now (tagged settings attempt retryFor request)).1

theorem Outgoing.isCopyOf {sent : Request} (outgoing : Outgoing settings target request sent) :
    sent.IsCopyOf request := by
  cases outgoing with
  | prepared handshake draw now attempt retryFor =>
      exact (handshake.prepare_isCopyOf draw target now _).trans
        (tagged_isCopyOf settings attempt retryFor request)

theorem attemptOnce_sendsOnly (env : Environment) (settings : RetrySettings) (target : Target)
    (request : Request) (attempt : Nat) (retryFor : Option HeaderValue) (session : Session) :
    SendsOnly (Outgoing settings target request) session
      (attemptOnce env settings target request attempt retryFor session).2 := by
  unfold attemptOnce
  split
  · exact .of_sent rfl
  · let tag := tagged settings attempt retryFor request
    refine ⟨[(session.elapsed, (session.prepare env target tag).1)], ?_, ?_⟩
    · simp [exchange, tag]
    · intro entry member
      obtain rfl := List.mem_singleton.mp member
      exact .prepared session.handshake (env.draw session.draws)
        (env.clock session.looks session.elapsed) attempt retryFor

theorem parts_sendsOnly (env : Environment) (settings : RetrySettings) (target : Target)
    (request : Request) :
    Parts env settings target request (SendsOnly (Outgoing settings target request)) where
  refl _ := .of_sent rfl
  trans := SendsOnly.trans
  told _ _ _ := .of_sent rfl
  waited session delay := .of_sent (wait_sent env delay session)
  attempted session attempt retryFor :=
    attemptOnce_sendsOnly env settings target request attempt retryFor session

theorem run_sendsOnly (env : Environment) (settings : RetrySettings) (target : Target)
    (request : Request) (session : Session) :
    SendsOnly (Outgoing settings target request) session
      (run env settings target request session).2 := by
  have told : SendsOnly (Outgoing settings target request) session
      (session.tell [.span target.kind .pipeline]) := .of_sent rfl
  exact told.trans ((parts_sendsOnly env settings target request).of_run session)

/-- How an exchange ends with a response, by the step that the handshake took. -/
def TokenExchange.ofStep (response : Response) : Option HandshakeStep → TokenExchange
  | none => .completed response
  | some step => .advanced step

/-- A call of the token endpoint is a call whose response the handshake takes, if there is one. -/
theorem runToken_eq (env : Environment) (settings : RetrySettings) (request : Request)
    (session : Session) :
    runToken env settings request session =
      match (run env settings .token request session).1 with
      | .error error => (.error error, (run env settings .token request session).2)
      | .ok response =>
        let observed := (run env settings .token request session).2.observe env response
        (observed.1.map (TokenExchange.ofStep response), observed.2) := by
  unfold runToken
  cases run env settings .token request session with
  | mk answer later =>
      cases answer with
      | error error => rfl
      | ok response =>
          dsimp only
          cases later.observe env response with
          | mk taken after => rcases taken with error | (_ | step) <;> rfl

theorem runToken_sendsOnly (env : Environment) (settings : RetrySettings) (request : Request)
    (session : Session) :
    SendsOnly (Outgoing settings .token request) session
      (runToken env settings request session).2 := by
  have ran := run_sendsOnly env settings .token request session
  rw [runToken_eq]
  split
  · exact ran
  · exact ran.trans (.of_sent (observe_sent env _ _))

theorem runToken_sendsTo (env : Environment) (settings : RetrySettings) (request : Request)
    (session : Session) :
    SendsTo (· = request.url) session (runToken env settings request session).2 :=
  SendsTo.iff_sendsOnly.mpr
    ((runToken_sendsOnly env settings request session).mono fun _ outgoing =>
      outgoing.isCopyOf.url)

end Pipeline

namespace Acquisition

variable {env : Environment} {config : ClientConfig}

/-- What is stated at an instant by an assertion that expires at another one. -/
def statedAt (config : ClientConfig) (now expiry : Instant) (draw : Draw) : Assertion.Claims :=
  ⟨config.tokenEndpoint.toText, config.clientId, config.clientId, now.seconds, expiry.seconds,
    draw.identifier⟩

/-- How a token request comes about at an instant, or why there is none. -/
inductive Asks (config : ClientConfig) (now : Instant) (draw : Draw) :
    Except Error Request → Prop where
  | beyond : now.add? Assertion.lifetime = none → Asks config now draw (.error .beyondCalendar)
  | unsignable {expiry : Instant} : now.add? Assertion.lifetime = some expiry →
      config.key.canSign = false → Asks config now draw (.error (.config .unsignable))
  | made {expiry : Instant} {assertion : String} : now.add? Assertion.lifetime = some expiry →
      config.key.canSign = true →
      assertion = compactToken (Assertion.header config.key config.keyId)
        (statedAt config now expiry draw).toJson draw.signature →
      Asks config now draw
        (.ok (((Request.plain "POST" config.tokenEndpoint).withHeader "accept"
          (.ofAscii "application/json")).withForm (form config assertion)))

theorem sign_of_canSign {now expiry : Instant} (later : now.add? Assertion.lifetime = some expiry)
    (able : config.key.canSign = true) (draw : Draw) :
    Assertion.sign config.clientId config.tokenEndpoint config.key config.keyId now
        draw.identifier draw.signature =
      .ok (compactToken (Assertion.header config.key config.keyId)
        (statedAt config now expiry draw).toJson draw.signature) := by
  rw [Assertion.sign, Assertion.Claims.of?, later, Option.map_some]
  exact if_pos able

theorem request_asks (config : ClientConfig) (now : Instant) (draw : Draw) :
    Asks config now draw (request config now draw) := by
  cases later : now.add? Assertion.lifetime with
  | none =>
      simp only [request, Assertion.sign, Assertion.Claims.of?, later, Option.map_none]
      exact .beyond later
  | some expiry =>
      cases able : config.key.canSign with
      | false =>
          simp only [request, Assertion.sign, Assertion.Claims.of?, later, able, Option.map_some]
          exact .unsignable later able
      | true =>
          simp only [request, sign_of_canSign later able]
          exact .made later able rfl

theorem request_url {now : Instant} {draw : Draw} {made : Request}
    (requested : request config now draw = .ok made) : made.url = config.tokenEndpoint := by
  have asks := request_asks config now draw
  rw [requested] at asks
  cases asks
  rfl

/-- A relation between sessions that holds across every part of an acquisition. It may depend on how
many calls of the token endpoint lie in between. -/
structure Parts (env : Environment) (config : ClientConfig)
    (R : (calls : Nat) → Session → Session → Prop) : Prop where
  trans : ∀ {calls further first second third},
    R calls first second → R further second third → R (calls + further) first third
  weaken : ∀ {calls more first second}, calls ≤ more → R calls first second → R more first second
  looked : ∀ session, R 0 session (session.look env).2
  drawn : ∀ session, R 0 session (session.draw env).2
  told : ∀ session, R 0 session (session.tell [.span .token .clientCredentials])
  called : ∀ session made, made.url = config.tokenEndpoint →
    R 1 session (Pipeline.runToken env config.retry made session).2

namespace Parts

variable {R : Nat → Session → Session → Prop}

theorem of_exchange (parts : Parts env config R) (session : Session) :
    R 1 session (exchange env config session).2 := by
  have ready : R 0 session ((session.look env).2.draw env).2 :=
    parts.trans (parts.looked session) (parts.drawn _)
  unfold exchange
  dsimp only
  split
  · exact parts.weaken (Nat.zero_le 1) ready
  · rename_i made requested
    have called := parts.called ((session.look env).2.draw env).2 made (request_url requested)
    have through := parts.trans ready called
    split
    · rename_i result
      rwa [result] at through
    · rename_i result
      rwa [result] at through
    · rename_i later result
      rw [result] at through
      have seen : R 1 session (later.look env).2 := parts.trans through (parts.looked later)
      split <;> exact seen

theorem of_exchanges (parts : Parts env config R) (roundsLeft : Nat) (session : Session) :
    R (roundsLeft + 1) session (exchanges env config roundsLeft session).2 := by
  induction roundsLeft generalizing session with
  | zero =>
      have first := parts.of_exchange session
      unfold exchanges
      split <;> (rename_i result; rwa [result] at first)
  | succ roundsLeft ih =>
      have first := parts.of_exchange session
      have enough : 1 ≤ roundsLeft + 1 + 1 := Nat.le_add_left 1 _
      unfold exchanges
      split
      · rename_i result
        rw [result] at first
        exact parts.weaken enough first
      · rename_i result
        rw [result] at first
        exact parts.weaken enough first
      · rename_i next result
        rw [result] at first
        have whole := parts.trans first (ih next)
        rwa [Nat.add_comm 1] at whole

theorem of_fetch (parts : Parts env config R) (session : Session) :
    R (maxRounds + 1) session (fetch env config session).2 := by
  have began := parts.told session
  have exchanged := parts.of_exchanges maxRounds (session.tell [.span .token .clientCredentials])
  have whole := parts.trans began exchanged
  rwa [Nat.zero_add] at whole

end Parts

theorem parts_sendsTo (env : Environment) (config : ClientConfig) :
    Parts env config fun _ => SendsTo (· = config.tokenEndpoint) where
  trans := SendsTo.trans
  weaken _ sends := sends
  looked _ := .of_sent rfl
  drawn _ := .of_sent rfl
  told _ := .of_sent rfl
  called session made addressed := by
    have sends := Pipeline.runToken_sendsTo env config.retry made session
    rwa [addressed] at sends

theorem fetch_sendsTo (env : Environment) (config : ClientConfig) (session : Session) :
    SendsTo (· = config.tokenEndpoint) session (fetch env config session).2 :=
  (parts_sendsTo env config).of_fetch session

section

variable {allowed : Request → Prop}
  (each : ∀ {now draw made}, request config now draw = .ok made →
    ∀ sent, Pipeline.Outgoing config.retry .token made sent → allowed sent)

include each

theorem exchange_sendsOnly (env : Environment) (session : Session) :
    SendsOnly allowed session (exchange env config session).2 := by
  unfold exchange
  dsimp only
  split
  · exact .of_sent rfl
  · rename_i made requested
    have called : SendsOnly allowed session
        (Pipeline.runToken env config.retry made ((session.look env).2.draw env).2).2 :=
      (Pipeline.runToken_sendsOnly env config.retry made _).mono (each requested)
    split
    · rename_i result
      rwa [result] at called
    · rename_i result
      rwa [result] at called
    · rename_i result
      rw [result] at called
      split <;> exact called

theorem exchanges_sendsOnly (env : Environment) (roundsLeft : Nat) (session : Session) :
    SendsOnly allowed session (exchanges env config roundsLeft session).2 := by
  induction roundsLeft generalizing session with
  | zero =>
      have first := exchange_sendsOnly each env session
      unfold exchanges
      split <;> (rename_i result; rwa [result] at first)
  | succ roundsLeft ih =>
      have first := exchange_sendsOnly each env session
      unfold exchanges
      split
      · rename_i result
        rwa [result] at first
      · rename_i result
        rwa [result] at first
      · rename_i next result
        rw [result] at first
        exact first.trans (ih next)

theorem fetch_sendsOnly (env : Environment) (session : Session) :
    SendsOnly allowed session (fetch env config session).2 :=
  exchanges_sendsOnly each env maxRounds (session.tell [.span .token .clientCredentials])

end

/-! ## Tokens for use -/

/-- A later session that has looked at the clock since and has done nothing else. -/
def Looked (session later : Session) : Prop :=
  ∃ more, later = { session with looks := session.looks + more }

theorem Looked.trans {first second third : Session} (before : Looked first second)
    (after : Looked second third) : Looked first third := by
  obtain ⟨few, rfl⟩ := before
  obtain ⟨more, rfl⟩ := after
  exact ⟨few + more, by rw [Nat.add_assoc]⟩

theorem fresh_session (env : Environment) (config : ClientConfig) (session : Session) :
    (fresh env config session).2 = (session.look env).2 := by
  unfold fresh
  dsimp only
  split
  · rfl
  · split <;> rfl

theorem fresh_looked (env : Environment) (config : ClientConfig) (session : Session) :
    Looked session (fresh env config session).2 :=
  ⟨1, fresh_session env config session⟩

theorem cached_of_fresh {session : Session} {token : AccessToken}
    (kept : (fresh env config session).1 = .ok (some token)) : session.cached = some token := by
  unfold fresh at kept
  dsimp only [Session.look] at kept
  split at kept
  · cases kept
  · rename_i cached
    split at kept <;> cases kept
    exact cached

/-- Whether a token need not be replaced yet is unknown only where its time is beyond the
calendar. -/
theorem fresh_error {session : Session} {error : Error}
    (unknown : (fresh env config session).1 = .error error) : error = .beyondCalendar := by
  unfold fresh at unknown
  dsimp only at unknown
  split at unknown
  · cases unknown
  · split at unknown <;> cases unknown
    rfl

inductive Source where
  /-- The client had it. -/
  | cache
  /-- It was acquired. -/
  | endpoint
  deriving DecidableEq

/-- How a client comes by a token: it has one that need not be replaced, or acquires one and keeps
it. A failure leaves what it had. -/
inductive Access (env : Environment) (config : ClientConfig) (session : Session) :
    Source → Except Error AccessToken → Session → Prop where
  | reused {token : AccessToken} {later : Session} :
      session.cached = some token → Looked session later →
      Access env config session .cache (.ok token) later
  | unknown {later : Session} :
      Looked session later → Access env config session .cache (.error .beyondCalendar) later
  | acquired {token : AccessToken} {waiting later : Session} :
      Looked session waiting → fetch env config waiting = (.ok token, later) →
      Access env config session .endpoint (.ok token) { later with cached := some token }
  | failed {error : Error} {waiting later : Session} :
      Looked session waiting → fetch env config waiting = (.error error, later) →
      Access env config session .endpoint (.error error) later

theorem accessToken_access (env : Environment) (config : ClientConfig) (session : Session) :
    ∃ source, Access env config session source (accessToken env config session).1
      (accessToken env config session).2 := by
  have looked := fresh_looked env config session
  unfold accessToken
  split
  · rename_i result
    rw [result] at looked
    obtain rfl := fresh_error (congrArg Prod.fst result)
    exact ⟨.cache, .unknown looked⟩
  · rename_i result
    rw [result] at looked
    exact ⟨.cache, .reused (cached_of_fresh (congrArg Prod.fst result)) looked⟩
  · rename_i waiting result
    rw [result] at looked
    have again := fresh_looked env config waiting
    have same : waiting.cached = session.cached := by
      obtain ⟨_, rfl⟩ := looked
      rfl
    split
    · rename_i second
      rw [second] at again
      obtain rfl := fresh_error (congrArg Prod.fst second)
      exact ⟨.cache, .unknown (looked.trans again)⟩
    · rename_i second
      rw [second] at again
      have cached := cached_of_fresh (congrArg Prod.fst second)
      exact ⟨.cache, .reused (same.symm.trans cached) (looked.trans again)⟩
    · rename_i second
      rw [second] at again
      unfold renew
      split
      · rename_i fetched
        exact ⟨.endpoint, .failed (looked.trans again) fetched⟩
      · rename_i fetched
        exact ⟨.endpoint, .acquired (looked.trans again) fetched⟩

/-- Without a token at hand one is acquired, or nothing is. -/
theorem Access.of_empty {session later : Session} {source : Source} {token : AccessToken}
    (access : Access env config session source (.ok token) later) (empty : session.cached = none) :
    source = .endpoint := by
  cases access with
  | reused cached => rw [empty] at cached; cases cached
  | acquired => rfl

theorem accessToken_sendsTo (env : Environment) (config : ClientConfig) (session : Session) :
    SendsTo (· = config.tokenEndpoint) session (accessToken env config session).2 := by
  obtain ⟨source, access⟩ := accessToken_access env config session
  generalize (accessToken env config session).1 = result at access
  generalize (accessToken env config session).2 = later at access
  cases access with
  | reused _ looked | unknown looked =>
      obtain ⟨_, rfl⟩ := looked
      exact .of_sent rfl
  | @acquired _ waiting _ looked fetched | @failed _ waiting _ looked fetched =>
      have sends := fetch_sendsTo env config waiting
      rw [fetched] at sends
      obtain ⟨_, rfl⟩ := looked
      exact sends

end Acquisition

namespace Api

variable {α : Type}

/-- The requests of a call with a token: those to the token endpoint, and copies of the caller's. -/
def Errands (config : ClientConfig) (request sent : Request) : Prop :=
  sent.url = config.tokenEndpoint ∨ sent.IsCopyOf request

theorem attempt_sendsOnly (env : Environment) (config : ClientConfig) (request : Request)
    (session : Session) :
    SendsOnly (Errands config request) session (attempt env config request session).2 := by
  have acquired : SendsOnly (Errands config request) session
      (Acquisition.accessToken env config session).2 :=
    (SendsTo.iff_sendsOnly.mp (Acquisition.accessToken_sendsTo env config session)).mono
      fun _ => .inl
  unfold attempt
  split
  · rename_i result
    rwa [result] at acquired
  · rename_i result
    rw [result] at acquired
    split
    · exact acquired
    · refine acquired.trans ((Pipeline.run_sendsOnly _ _ _ _ _).mono fun _ outgoing => .inr ?_)
      exact outgoing.isCopyOf.trans (withHeader_isCopyOf request (by decide) _)

/-- A call with a token sends nothing but the caller's request, save to the token endpoint. -/
theorem send_sendsOnly (env : Environment) (config : ClientConfig) (request : Request)
    (session : Session) :
    SendsOnly (Errands config request) session (send env config request session).2 := by
  have first := attempt_sendsOnly env config request session
  unfold send
  split
  · rename_i result
    rwa [result] at first
  · rename_i later result
    rw [result] at first
    split
    · have second := attempt_sendsOnly env config request later.invalidate
      have whole := first.trans ((SendsOnly.of_sent rfl).trans second)
      split <;> (rename_i again; rwa [again] at whole)
    · exact first

def endpoints (config : ClientConfig) (own : Url) (url : Url) : Prop :=
  url = config.tokenEndpoint ∨ url = own

theorem send_sendsTo (env : Environment) (config : ClientConfig) (request : Request)
    (session : Session) :
    SendsTo (endpoints config request.url) session (send env config request session).2 :=
  SendsTo.iff_sendsOnly.mpr ((send_sendsOnly env config request session).mono
    fun _ => Or.imp_right fun copy => copy.url)

theorem fetch_sendsTo (decoder : Json.Decoder α) (env : Environment) (config : ClientConfig)
    (url : Url) (session : Session) :
    SendsTo (endpoints config url) session (fetch decoder env config url session).2 := by
  have sends := send_sendsTo env config (jsonRequest url) session
  unfold fetch
  split
  · rename_i result
    rwa [result] at sends
  · rename_i result
    rw [result] at sends
    split <;> exact sends

def pageUrl (config : ClientConfig) (first : Url) (target : Option String) : Except Error Url :=
  target.elim (.ok first) config.resolve

@[simp] theorem pageUrl_none (config : ClientConfig) (first : Url) :
    pageUrl config first none = .ok first := rfl

@[simp] theorem pageUrl_some (config : ClientConfig) (first : Url) (link : String) :
    pageUrl config first (some link) = config.resolve link := rfl

/-- A page is fetched from where its link leads, with a token from the token endpoint. -/
theorem pages_sendsTo (decoder : Json.Decoder α) (env : Environment) (config : ClientConfig)
    (first : Url) (session : Session) (target : Option String) :
    SendsTo (fun url => url = config.tokenEndpoint ∨ pageUrl config first target = .ok url)
      session (pages decoder env config first session target).2 := by
  unfold pages
  split
  · exact .of_sent rfl
  · rename_i own resolved
    refine (fetch_sendsTo (Json.decodeList decoder) env config own session).mono ?_
    rintro url (token | rfl)
    · exact .inl token
    · exact .inr resolved

end Api

end KeyBound
