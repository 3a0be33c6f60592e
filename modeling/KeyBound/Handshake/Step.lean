import KeyBound.Text.Utf8

/-!
# Steps and failures of the handshake

What a handshake reports: the steps by which it goes on, and the ways in which a server can break
its rules.
-/

set_option autoImplicit false

namespace KeyBound

inductive HandshakeStep where
  /-- The server asked for proofs, and there is a key now. -/
  | keyEstablished
  /-- The server asked for a nonce, and one is held now. -/
  | nonceAccepted
  /-- A token was granted while a nonce was held. -/
  | completed
  /-- A nonce was given up before a token request because it had expired. -/
  | nonceExpired
  deriving DecidableEq, Repr

namespace HandshakeStep

def all : List HandshakeStep := [.keyEstablished, .nonceAccepted, .completed, .nonceExpired]

def label : HandshakeStep → String
  | .keyEstablished => "key_established"
  | .nonceAccepted => "nonce_accepted"
  | .completed => "completed"
  | .nonceExpired => "nonce_expired"

end HandshakeStep

inductive HandshakeFailure where
  /-- It asks for proofs although there is a key. -/
  | repeatedInvalidProof
  /-- It asks for a nonce although one is held. -/
  | repeatedUseNonce
  /-- It asks for a nonce and sends none. -/
  | missingNonceHeader
  /-- It sends another error although there is a key. -/
  | unexpectedError
  deriving DecidableEq, Repr

def HandshakeFailure.all : List HandshakeFailure :=
  [.repeatedInvalidProof, .repeatedUseNonce, .missingNonceHeader, .unexpectedError]

def HandshakeFailure.label : HandshakeFailure → String
  | .repeatedInvalidProof => "repeated_invalid_dpop_proof"
  | .repeatedUseNonce => "repeated_use_dpop_nonce"
  | .missingNonceHeader => "missing_dpop_nonce_header"
  | .unexpectedError => "unexpected_error"

structure HandshakeViolation where
  failure : HandshakeFailure
  body : String
  deriving DecidableEq, Repr

namespace HandshakeViolation

def ofBody (failure : HandshakeFailure) (body : Bytes) : HandshakeViolation :=
  ⟨failure, utf8Lossy body⟩

def message (violation : HandshakeViolation) : String :=
  "DPoP handshake failed (" ++ violation.failure.label ++ "): " ++ violation.body ++ "."

end HandshakeViolation

end KeyBound
