import KeyBound.Http.Message
import KeyBound.Retry.RateLimit
import KeyBound.Retry.Settings

/-!
# Retry decisions

Whether a request is sent again after an attempt, and how long to wait before. Attempts are counted
from one.
-/

set_option autoImplicit false

namespace KeyBound.RetrySettings

def repeatableMethods : List String := ["GET", "HEAD", "OPTIONS", "TRACE", "QUERY", "PUT", "DELETE"]

/-- Whether a request may be repeated after a failure of the transport. -/
def isIdempotent (settings : RetrySettings) (method : String) (requestSent : Bool) : Bool :=
  match settings.idempotency with
  | .always => true
  | .never => false
  | .safeMethodsOrUnsent => !requestSent || repeatableMethods.contains method

/-- Whether a request is sent again after an attempt. Cancelled calls and spent budgets end it;
failures count by their kind, if the request may be repeated, and responses by their status. -/
def shouldRetry (settings : RetrySettings) (attempt : Nat) (outcome : Outcome) (idempotent : Bool)
    (cancelled : Bool) : Bool :=
  if cancelled ∨ settings.maxRetries < attempt then false
  else
    match outcome with
    | .error failure => !settings.nonRetriableKinds.contains failure.kind && idempotent
    | .ok response => settings.retriableStatuses.contains response.status

/-- What the initial delay is multiplied by after an attempt. -/
def backoffFactor (attempt : Nat) : Nat :=
  if attempt < 32 then Nat.pow 2 attempt else Nat.pow 2 32 - 1

def backoffDelay (settings : RetrySettings) (attempt : Nat) : Delay :=
  (settings.initialBackoff.times (backoffFactor attempt)).atMost settings.maxBackoff

def isRateLimited : Outcome → Bool
  | .ok response => response.status == 429
  | .error _ => false

def retryDelay (settings : RetrySettings) (attempt : Nat) (outcome : Outcome) : Delay :=
  match outcome with
  | .ok response =>
    if response.status = 429 then
      (RateLimit.delay? response.headers).getD (settings.backoffDelay attempt)
    else settings.backoffDelay attempt
  | .error _ => settings.backoffDelay attempt

end KeyBound.RetrySettings
