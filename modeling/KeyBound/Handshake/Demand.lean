import KeyBound.Json.Decode

/-!
# Demands of the token endpoint

The error code in the body of a refusal, as far as the handshake reacts to it.
-/

set_option autoImplicit false

namespace KeyBound

inductive Demand where
  /-- Requests have to carry a proof. -/
  | proof
  /-- Proofs have to carry a nonce. -/
  | nonce
  | unrecognized (code : String)
  deriving DecidableEq, Repr

namespace Demand

def code : Demand → String
  | .proof => "invalid_dpop_proof"
  | .nonce => "use_dpop_nonce"
  | .unrecognized code => code

def ofCode (code : String) : Demand :=
  if code = Demand.proof.code then .proof
  else if code = Demand.nonce.code then .nonce
  else .unrecognized code

/-- The error code of a body, if it is a JSON object with a text as its error code. -/
def errorCode? (body : Bytes) : Option String :=
  match Json.decodeWhole Json.decodeValue body with
  | .ok (.object members) =>
    match Json.member? "error" members with
    | some (.text code) => some code
    | _ => none
  | _ => none

def ofBody? (body : Bytes) : Option Demand := (errorCode? body).map ofCode

end Demand

end KeyBound
