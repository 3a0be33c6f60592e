import KeyBound.Client.Session
import KeyBound.Retry.Policy

/-!
# Calls

A request on its way: attempts, each made from the caller's request and prepared anew, and waits
between them. The last attempt decides how the call ends; a cancelled call ends at once.
-/

set_option autoImplicit false

namespace KeyBound

def Target.kind : Target → RequestKind
  | .token => .token
  | .resource => .resource

namespace Pipeline

/-! ## Headers of repeated requests -/

def requestIdHeader : String := "x-okta-request-id"

def retryForHeader : String := "x-okta-retry-for"

def retryCountHeader : String := "x-okta-retry-count"

/-- The request of an attempt. From the second one on it tells the number of the attempt and what
the server called the first request that it named. Numbers are exact here; those of a pipeline have
32 bits. -/
def tagged (settings : RetrySettings) (attempt : Nat) (retryFor : Option HeaderValue)
    (request : Request) : Request :=
  if 1 < attempt && settings.retryHeaders then
    let counted := request.withHeader retryCountHeader (.ofAscii (toString attempt))
    match retryFor with
    | some id => counted.withHeader retryForHeader id
    | none => counted
  else request

/-- What the server called the first request that it named, an attempt later. -/
def firstNamed (retryFor : Option HeaderValue) (outcome : Outcome) : Option HeaderValue :=
  match retryFor, outcome with
  | none, .ok response => response.headers.get? requestIdHeader
  | _, _ => retryFor

/-! ## Decisions -/

def wasSent : Outcome → Bool
  | .ok _ => true
  | .error failure => failure.requestSent

/-- After which delay a request is sent again, if it is. -/
def delay? (settings : RetrySettings) (attempt : Nat) (method : String) (outcome : Outcome)
    (cancelled : Bool) : Option Delay :=
  if settings.shouldRetry attempt outcome (settings.isIdempotent method (wasSent outcome)) cancelled
  then some (settings.retryDelay attempt outcome) else none

/-- Whether a delay would end after the time that a call may take. The sum is exact here; a pipeline
has none beyond the longest duration. -/
def isOverBudget (settings : RetrySettings) (spent delay : Delay) : Bool :=
  match settings.maxElapsed with
  | some budget => budget < spent.plus delay
  | none => false

def result : Outcome → Except Error Response
  | .ok response => .ok response
  | .error failure => .error (.transport failure)

/-! ## Attempts -/

/-- One attempt; none if the call is cancelled before its end. -/
def attemptOnce (env : Environment) (settings : RetrySettings) (target : Target)
    (request : Request) (attempt : Nat) (retryFor : Option HeaderValue) (session : Session) :
    Option Outcome × Session :=
  if session.isCancelled env then (none, session)
  else
    let (prepared, session) := session.prepare env target (tagged settings attempt retryFor request)
    (session.tell [.counted target.kind .attempt]).exchange env prepared

/-- The attempts of a call that began at some time of the session, as long as some number of retries
is left. Without any left the outcome of the attempt is final. This is what a pipeline does while
its 32 bits hold the number of the attempt. -/
def attempts (env : Environment) (settings : RetrySettings) (target : Target) (request : Request)
    (began : Delay) :
    (retriesLeft : Nat) → Option HeaderValue → Session → Except Error Response × Session
  | 0, retryFor, session =>
    match attemptOnce env settings target request (settings.maxRetries + 1) retryFor session with
    | (none, session) => (.error .cancelled, session)
    | (some outcome, session) => (result outcome, session)
  | retriesLeft + 1, retryFor, session =>
    let attempt := settings.maxRetries - retriesLeft
    match attemptOnce env settings target request attempt retryFor session with
    | (none, session) => (.error .cancelled, session)
    | (some outcome, session) =>
      match delay? settings attempt request.method outcome (session.isCancelled env) with
      | none => (result outcome, session)
      | some delay =>
        let session :=
          session.tell [.delayChosen attempt delay.millis (RetrySettings.isRateLimited outcome)]
        if isOverBudget settings (session.elapsed.minus began) delay then (result outcome, session)
        else
          let session :=
            session.tell [.retrying attempt delay.millis, .counted target.kind .retry]
          match session.wait env delay with
          | (false, session) => (.error .cancelled, session)
          | (true, session) =>
            attempts env settings target request began retriesLeft (firstNamed retryFor outcome)
              session

def outcomeOf : Except Error Response → RequestOutcome
  | .ok response => if response.isSuccess then .success else .failure
  | .error _ => .failure

def run (env : Environment) (settings : RetrySettings) (target : Target) (request : Request)
    (session : Session) : Except Error Response × Session :=
  let session := session.tell [.span target.kind .pipeline]
  let (result, session) :=
    attempts env settings target request session.elapsed settings.maxRetries none session
  (result, session.tell [.counted target.kind (outcomeOf result)])

inductive TokenExchange where
  /-- With a response that makes no demand. -/
  | completed (response : Response)
  /-- With a demand that the handshake has met; the request is to be made again. -/
  | advanced (step : HandshakeStep)
  deriving DecidableEq, Repr

def runToken (env : Environment) (settings : RetrySettings) (request : Request)
    (session : Session) : Except Error TokenExchange × Session :=
  match run env settings .token request session with
  | (.error error, session) => (.error error, session)
  | (.ok response, session) =>
    match session.observe env response with
    | (.error error, session) => (.error error, session)
    | (.ok (some step), session) => (.ok (.advanced step), session)
    | (.ok none, session) => (.ok (.completed response), session)

end Pipeline

end KeyBound
