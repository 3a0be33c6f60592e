import KeyBound.Handshake.Step
import KeyBound.Json.Value

/-!
# Events

What a client tells of its work: spans around calls, log entries and counters. No event holds more
than the kind of a call, its attempts and delays, and the steps of the handshake.
-/

set_option autoImplicit false

namespace KeyBound

inductive RequestKind where
  | token
  | resource
  deriving DecidableEq, Repr

namespace RequestKind

def all : List RequestKind := [.token, .resource]

def label : RequestKind → String
  | .token => "token"
  | .resource => "resource"

end RequestKind

/-- What is counted of a call. -/
inductive RequestOutcome where
  /-- A request is about to be sent. -/
  | attempt
  /-- A request is going to be sent again. -/
  | retry
  | success
  | failure
  deriving DecidableEq, Repr

namespace RequestOutcome

def all : List RequestOutcome := [.attempt, .retry, .success, .failure]

def label : RequestOutcome → String
  | .attempt => "attempt"
  | .retry => "retry"
  | .success => "success"
  | .failure => "failure"

end RequestOutcome

/-- Where in the client a span begins. -/
inductive Stage where
  | pipeline
  | clientCredentials
  deriving DecidableEq, Repr

def Stage.label : Stage → String
  | .pipeline => "pipeline"
  | .clientCredentials => "client_credentials"

inductive Event where
  | span (kind : RequestKind) (stage : Stage)
  | counted (kind : RequestKind) (outcome : RequestOutcome)
  /-- A delay was chosen after an attempt. -/
  | delayChosen (attempt : Nat) (millis : Nat) (rateLimited : Bool)
  /-- A request is going to be sent again after a delay. -/
  | retrying (attempt : Nat) (millis : Nat)
  | stepLogged (step : HandshakeStep)
  | stepCounted (step : HandshakeStep)
  deriving DecidableEq, Repr

inductive Level where
  | debug
  | info
  deriving DecidableEq, Repr

def Level.label : Level → String
  | .debug => "DEBUG"
  | .info => "INFO"

inductive Report where
  | span (name : String) (fields : List (String × Json.Value))
  | log (level : Level) (message : String) (fields : List (String × Json.Value))
  | count (name : String) (labels : List (String × Json.Value))

def Report.toJson : Report → Json.Value
  | .span name fields => .array [.text "span", .text name, .object fields]
  | .log level message fields =>
    .array [.text "log", .text level.label, .text message, .object fields]
  | .count name labels => .array [.text "count", .text name, .object labels]

namespace Event

def spanName : String := "oauth2_courier.request"

def requestCounter : String := "oauth2_courier_request_total"

def stepCounter : String := "oauth2_courier_dpop_handshake_total"

def report : Event → Report
  | .span kind stage => .span spanName [("kind", .text kind.label), ("stage", .text stage.label)]
  | .counted kind outcome =>
    .count requestCounter [("kind", .text kind.label), ("outcome", .text outcome.label)]
  | .delayChosen attempt millis rateLimited =>
    .log .debug "Computed retry delay."
      [("attempt", .ofNat attempt), ("delay_ms", .ofNat millis),
        ("rate_limited", .bool rateLimited)]
  | .retrying attempt millis =>
    .log .info ("Retry # " ++ toString attempt ++ " after " ++ toString millis ++ " ms delay")
      [("attempt", .ofNat attempt), ("delay_ms", .ofNat millis)]
  | .stepLogged .completed => .log .info "DPoP handshake successful." []
  | .stepLogged step => .log .info "DPoP handshake advanced." [("step", .text step.label)]
  | .stepCounted step => .count stepCounter [("step", .text step.label)]

def ofStep (step : HandshakeStep) : List Event := [.stepLogged step, .stepCounted step]

end Event

end KeyBound
