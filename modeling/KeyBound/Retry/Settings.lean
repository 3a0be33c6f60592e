import KeyBound.Http.Failure
import KeyBound.Json.Decode
import KeyBound.Time.Instant

/-!
# Retry settings

How often, how soon and after what a request is sent again. Settings are read from JSON, where every
field may be left out, and written with all of them; delays are whole milliseconds there.
-/

set_option autoImplicit false

namespace KeyBound

/-- Which requests may be sent again after a failure of the transport. -/
inductive IdempotencyRule where
  /-- Those whose method has no further effect when repeated, and those that were never sent. -/
  | safeMethodsOrUnsent
  | always
  | never
  deriving DecidableEq, Repr

namespace IdempotencyRule

def all : List IdempotencyRule := [.safeMethodsOrUnsent, .always, .never]

def label : IdempotencyRule → String
  | .safeMethodsOrUnsent => "safe_methods_or_unsent"
  | .always => "always"
  | .never => "never"

def ofLabel? (text : String) : Option IdempotencyRule := all.find? (·.label == text)

end IdempotencyRule

structure RetrySettings where
  /-- How often a request is sent again at most. -/
  maxRetries : Nat
  /-- The delay that doubles with each attempt. -/
  initialBackoff : Delay
  /-- The greatest delay that it doubles to. -/
  maxBackoff : Delay
  /-- How much time may have passed at the start of an attempt. -/
  maxElapsed : Option Delay
  /-- Statuses after which a request is sent again, in ascending order. -/
  retriableStatuses : List Nat
  /-- Failures after which a request is not sent again, in the order in which they are listed. -/
  nonRetriableKinds : List FailureKind
  idempotency : IdempotencyRule
  /-- Whether requests that are sent again say so. -/
  retryHeaders : Bool
  deriving DecidableEq, Repr

namespace RetrySettings

def standard : RetrySettings where
  maxRetries := 4
  initialBackoff := .ofMillis 300
  maxBackoff := .ofMillis 20000
  maxElapsed := none
  retriableStatuses := [429, 503, 504]
  nonRetriableKinds := [.nameResolution, .connect, .connectionClosed, .noRoute, .tls, .interrupted]
  idempotency := .safeMethodsOrUnsent
  retryHeaders := true

/-! ## Sets -/

def insertStatus (status : Nat) : List Nat → List Nat
  | [] => [status]
  | first :: rest =>
    if status = first then first :: rest
    else if status < first then status :: first :: rest
    else first :: insertStatus status rest

def statusSet (statuses : List Nat) : List Nat := statuses.foldr insertStatus []

def kindSet (kinds : List FailureKind) : List FailureKind :=
  FailureKind.all.filter (kinds.contains ·)

/-! ## JSON -/

def millisBound : Nat := Nat.pow 2 64

def decodeDelay : Json.Decoder Delay :=
  fun depth doc => (Json.decodeNatBelow millisBound depth doc).map Delay.ofMillis

/-- The fields of settings, none of which has to stand. -/
def fields : List (Json.Field RetrySettings) :=
  [.ofDecoder "max_retries" false (Json.decodeNatBelow (Nat.pow 2 32)) fun x settings =>
      { settings with maxRetries := x },
    .ofDecoder "initial_backoff_ms" false decodeDelay fun x settings =>
      { settings with initialBackoff := x },
    .ofDecoder "max_backoff_ms" false decodeDelay fun x settings =>
      { settings with maxBackoff := x },
    .ofDecoder "max_elapsed_ms" false (Json.decodeNullable decodeDelay) fun x settings =>
      { settings with maxElapsed := x },
    .ofDecoder "retriable_statuses" false (Json.decodeList (Json.decodeNatBelow (Nat.pow 2 16)))
      fun x settings => { settings with retriableStatuses := statusSet x },
    .ofDecoder "non_retriable_kinds" false (Json.decodeList (Json.decodeLabel FailureKind.ofLabel?))
      fun x settings => { settings with nonRetriableKinds := kindSet x },
    .ofDecoder "idempotency" false (Json.decodeLabel IdempotencyRule.ofLabel?) fun x settings =>
      { settings with idempotency := x },
    .ofDecoder "retry_headers" false Json.decodeBool fun x settings =>
      { settings with retryHeaders := x }]

def decoder : Json.Decoder RetrySettings := Json.decodeRecord standard fields

def parse (text : Bytes) : Except Json.Cause RetrySettings :=
  (Json.decodeWhole decoder text).mapError (·.cause)

/-- A delay in whole milliseconds, as many as can be written. -/
def delayJson (delay : Delay) : Json.Value := .ofNat (min delay.millis (millisBound - 1))

def toJson (settings : RetrySettings) : Json.Value :=
  .object [("max_retries", .ofNat settings.maxRetries),
    ("initial_backoff_ms", delayJson settings.initialBackoff),
    ("max_backoff_ms", delayJson settings.maxBackoff),
    ("max_elapsed_ms", .ofOption delayJson settings.maxElapsed),
    ("retriable_statuses", .array (settings.retriableStatuses.map .ofNat)),
    ("non_retriable_kinds", .array (settings.nonRetriableKinds.map fun kind => .text kind.label)),
    ("idempotency", .text settings.idempotency.label),
    ("retry_headers", .bool settings.retryHeaders)]

end RetrySettings

end KeyBound
