import KeyBound.Crypto.PrivateKey
import KeyBound.Handshake.Step
import KeyBound.Http.Failure
import KeyBound.Paging.Link
import KeyBound.Token.Response
import KeyBound.Token.Scope

/-!
# Errors

Everything that a call can end with instead of a result, and its text.
-/

set_option autoImplicit false

namespace KeyBound

/-- What is wrong with a configuration or with what was put into a request. -/
inductive ConfigDefect where
  | orgUrlMissing
  | clientIdMissing
  | privateKeyMissing
  /-- The organization is not reached over a secure channel, nor on the machine itself. -/
  | insecureEndpoint (url : String)
  | scopesMissing
  | scopeInvalid (defect : ScopeDefect)
  | keyInvalid (defect : KeyDefect)
  | keyFileUnreadable
  | unsignable
  | urlInvalid
  | headerInvalid
  deriving DecidableEq, Repr

def ConfigDefect.message : ConfigDefect → String
  | .orgUrlMissing => "Missing organization URL."
  | .clientIdMissing => "Missing client identifier."
  | .privateKeyMissing => "Missing private key material."
  | .insecureEndpoint url => "The organization URL must use HTTPS: " ++ url ++ "."
  | .scopesMissing => "At least one scope must be configured."
  | .scopeInvalid _ => "Requested scopes are invalid."
  | .keyInvalid defect => "Private key material is invalid: " ++ defect.reason ++ "."
  | .keyFileUnreadable => "Private key file could not be read."
  | .unsignable => "Unable to sign JWT."
  | .urlInvalid => "URL is invalid."
  | .headerInvalid => "Header value is invalid."

/-- A response without success of an endpoint other than the token endpoint. -/
structure ApiFailure where
  status : Nat
  /-- What the server calls the request. -/
  requestId : Option String
  /-- The beginning of the body. -/
  preview : String
  deriving DecidableEq, Repr

namespace ApiFailure

def previewLimit : Nat := 512

/-- The beginning of a body as text; dots stand for what is left out. -/
def previewOf (body : Bytes) : String :=
  let text := Utf8.decodeLossy body
  if previewLimit < text.length then String.ofList (text.take previewLimit ++ ['.', '.', '.'])
  else String.ofList text

def of (status : Nat) (requestId : Option String) (body : Bytes) : ApiFailure :=
  ⟨status, requestId, previewOf body⟩

def message (failure : ApiFailure) : String :=
  "API request failed with HTTP " ++ toString failure.status ++ "."

end ApiFailure

inductive Error where
  | config (defect : ConfigDefect)
  | transport (failure : TransportFailure)
  | handshake (violation : HandshakeViolation)
  | token (defect : TokenDefect)
  | pagination (defect : LinkDefect)
  | api (failure : ApiFailure)
  /-- The body of a response is not of the type that was asked for. The parser has a report of its
  own. -/
  | undecodable (failure : Json.Failure) (report : Json.Report)
  | cancelled
  /-- A time would lie beyond the calendar. -/
  | beyondCalendar
  deriving DecidableEq, Repr

def Error.message : Error → String
  | .config defect => defect.message
  | .transport failure => failure.message
  | .handshake violation => violation.message
  | .token defect => defect.message
  | .pagination defect => defect.message
  | .api failure => failure.message
  | .undecodable _ _ => "Response body could not be decoded."
  | .cancelled => "Request was cancelled."
  | .beyondCalendar => "The time is out of range."

end KeyBound
