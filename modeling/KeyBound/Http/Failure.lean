/-!
# Transport failures

Why an exchange ended without a response, and whether the server may have seen the request.
-/

set_option autoImplicit false

namespace KeyBound

inductive FailureKind where
  /-- The host name has no address. -/
  | nameResolution
  /-- No connection was established. -/
  | connect
  /-- The other side closed or reset the connection. -/
  | connectionClosed
  /-- There is no way to the host or its network. -/
  | noRoute
  /-- The secure channel was not established. -/
  | tls
  | interrupted
  | timeout
  | other
  deriving DecidableEq, Repr

namespace FailureKind

def all : List FailureKind :=
  [.nameResolution, .connect, .connectionClosed, .noRoute, .tls, .interrupted, .timeout, .other]

def label : FailureKind → String
  | nameResolution => "name_resolution"
  | connect => "connect"
  | connectionClosed => "connection_closed"
  | noRoute => "no_route"
  | tls => "tls"
  | interrupted => "interrupted"
  | timeout => "timeout"
  | other => "other"

def ofLabel? (text : String) : Option FailureKind := all.find? (·.label == text)

end FailureKind

/-- What an operating system reports of a connection, as far as it matters here. -/
inductive ConnectionFault where
  | refused
  | reset
  | aborted
  | brokenPipe
  | notConnected
  | unexpectedEnd
  | hostUnreachable
  | networkUnreachable
  | interrupted
  | timedOut
  | unclassified
  deriving DecidableEq, Repr

def ConnectionFault.kind : ConnectionFault → FailureKind
  | refused => .connect
  | reset | aborted | brokenPipe | notConnected | unexpectedEnd => .connectionClosed
  | hostUnreachable | networkUnreachable => .noRoute
  | interrupted => .interrupted
  | timedOut => .timeout
  | unclassified => .other

/-- An exchange without a response. -/
structure TransportFailure where
  kind : FailureKind
  /-- Whether any part of the request may have reached the server. -/
  requestSent : Bool
  deriving DecidableEq, Repr

namespace TransportFailure

/-- The failure that a fault of the connection is. Nothing was sent if there never was a
connection. -/
def ofFault (fault : ConnectionFault) : TransportFailure :=
  let kind := fault.kind
  ⟨kind, kind != .connect && kind != .nameResolution && kind != .noRoute⟩

def message (failure : TransportFailure) : String :=
  "Transport failure (" ++ failure.kind.label ++ ") while calling the API."

end TransportFailure

end KeyBound
