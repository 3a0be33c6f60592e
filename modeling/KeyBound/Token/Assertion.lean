import KeyBound.Crypto.PrivateKey
import KeyBound.Time.Instant
import KeyBound.Token.Signed
import KeyBound.Url.Basic

/-!
# Client assertions

The signed statement by which a client identifies itself at the token endpoint. Each one has an
identifier of its own and is valid for fifty minutes.
-/

set_option autoImplicit false

namespace KeyBound.Assertion

def assertionType : String := "urn:ietf:params:oauth:client-assertion-type:jwt-bearer"

def lifetime : Span := .ofMinutes 50

structure Claims where
  audience : String
  issuer : String
  subject : String
  issuedAt : Int
  expiresAt : Int
  identifier : String
  deriving DecidableEq, Repr

/-- The claims of a client at an instant; none if they expire beyond the calendar. -/
def Claims.of? (client : String) (endpoint : Url) (now : Instant) (identifier : String) :
    Option Claims :=
  (now.add? lifetime).map fun expiry =>
    ⟨endpoint.toText, client, client, now.seconds, expiry.seconds, identifier⟩

def Claims.toJson (claims : Claims) : Json.Value :=
  .object [("aud", .text claims.audience), ("iss", .text claims.issuer),
    ("sub", .text claims.subject), ("iat", .ofInt claims.issuedAt),
    ("exp", .ofInt claims.expiresAt),
    ("jti", .text claims.identifier)]

def header (key : PrivateKey) (keyId : Option String) : Json.Value :=
  .object ([("typ", .text "JWT"), ("alg", .text key.algorithm.label)] ++
    keyId.toList.map fun id => ("kid", .text id))

inductive Defect where
  | unsignable
  | beyondCalendar
  deriving DecidableEq, Repr

def sign (client : String) (endpoint : Url) (key : PrivateKey) (keyId : Option String)
    (now : Instant) (identifier : String) (signature : Bytes) : Except Defect String :=
  match Claims.of? client endpoint now identifier with
  | none => .error .beyondCalendar
  | some claims =>
    if key.canSign then .ok (compactToken (header key keyId) claims.toJson signature)
    else .error .unsignable

end KeyBound.Assertion
