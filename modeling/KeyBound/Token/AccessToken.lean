import KeyBound.Http.Header
import KeyBound.Time.Instant

/-!
# Access tokens

A token as the token endpoint issued it, and when it has to be replaced.
-/

set_option autoImplicit false

namespace KeyBound

structure Secret where
  text : String
  deriving DecidableEq

namespace Secret

def display : String := "<redacted>"

def debugText : String := "TokenSecret(" ++ display ++ ")"

end Secret

structure AccessToken where
  secret : Secret
  tokenType : String
  issuedAt : Instant
  expiresAt : Instant
  /-- The scopes that were granted, if the server named them. -/
  scope : Option String
  idToken : Option Secret
  deriving DecidableEq

namespace AccessToken

def lifetime (token : AccessToken) : Span := ⟨token.expiresAt.nanos - token.issuedAt.nanos⟩

def isExpiredAt (token : AccessToken) (now : Instant) : Bool := token.expiresAt ≤ now

/-- Whether the token will have expired a span after an instant; unknown where that is beyond the
calendar. -/
def expiresWithin? (token : AccessToken) (window : Span) (now : Instant) : Option Bool :=
  (now.add? window).map token.isExpiredAt

/-- Whether the token has to be replaced before use: it has expired, or will have within the window.
A negative window counts as none. -/
def needsRenewal? (token : AccessToken) (window : Span) (now : Instant) : Option Bool :=
  if token.isExpiredAt now then some true else token.expiresWithin? window.clamped now

/-- Whether the server bound the token to a proof key. -/
def isBound (token : AccessToken) : Bool :=
  Text.sameIgnoringCase token.tokenType.toList "dpop".toList

/-- The header value that presents the token; none if the secret may not stand in a header. -/
def authorization? (token : AccessToken) : Option HeaderValue :=
  (HeaderValue.ofText? ("Bearer " ++ token.secret.text)).map HeaderValue.secret

end AccessToken

end KeyBound
