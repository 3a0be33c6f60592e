import KeyBound.Handshake.Demand
import KeyBound.Handshake.Proof
import KeyBound.Handshake.Step
import KeyBound.Http.Message

/-!
# The handshake

What a client knows of a server's demands: a key, once proofs were asked for, and a nonce, once one
was. A key is never given up. A nonce is given up when it has expired and a token is requested, and
only then.
-/

set_option autoImplicit false

namespace KeyBound

/-- A nonce of the server and the instant from which it is not used any more. -/
structure HeldNonce where
  value : String
  expiresAt : Instant
  deriving DecidableEq

structure Handshake where
  key : Option ProofKey
  nonce : Option HeldNonce
  /-- How long a nonce is held. -/
  validity : Span
  deriving DecidableEq

inductive Target where
  | token
  | resource
  deriving DecidableEq, Repr

/-- What a proof is made of beside its claims: a fresh key, in case there is none, an identifier,
and a signature. -/
structure Draw where
  key : ProofKey
  identifier : String
  signature : Bytes
  deriving DecidableEq, Repr

namespace Handshake

def start (validity : Span) : Handshake := ⟨none, none, validity⟩

def isActive (handshake : Handshake) : Bool := handshake.key.isSome

/-- The key, which is a fresh one if there is none yet. -/
def keyOrNew (handshake : Handshake) (fresh : ProofKey) : ProofKey := handshake.key.getD fresh

def withKey (handshake : Handshake) (fresh : ProofKey) : Handshake :=
  { handshake with key := some (handshake.keyOrNew fresh) }

/-! ## Requests -/

def hasExpiredNonce (handshake : Handshake) (now : Instant) : Bool :=
  match handshake.nonce with
  | some nonce => nonce.expiresAt ≤ now
  | none => false

/-- Gives up an expired nonce before a token request, and tells of it. -/
def refresh (handshake : Handshake) (target : Target) (now : Instant) :
    Handshake × List HandshakeStep :=
  if target = .token ∧ handshake.hasExpiredNonce now then
    ({ handshake with nonce := none }, [.nonceExpired])
  else (handshake, [])

/-- The token that a request presents: what follows the first space of its authorization, if that is
text. -/
def presented? (request : Request) : Option (List Char) :=
  (request.headers.chars? "authorization").map fun text => (text.dropWhile (· != ' ')).drop 1

/-- The claims of the proof for a request, and the request with the token it presents under the
scheme of proofs. -/
def claim (nonce : Option String) (target : Target) (claims : ProofClaims) (request : Request) :
    ProofClaims × Request :=
  match presented? request with
  | some token =>
    let token := String.ofList token
    ({ claims with tokenHash := some (tokenHash token) },
      request.withHeader "authorization" (HeaderValue.ofAscii ("DPoP " ++ token)).secret)
  | none => if target = .token then ({ claims with nonce }, request) else (claims, request)

/-- Puts a proof on a request if there is a key. -/
def prepare (handshake : Handshake) (draw : Draw) (target : Target) (now : Instant)
    (request : Request) : Request × Handshake × List HandshakeStep :=
  let (handshake, steps) := handshake.refresh target now
  match handshake.key with
  | none => (request, handshake, steps)
  | some key =>
    let claims := ProofClaims.ofRequest request.method request.url now draw.identifier
    let (claims, request) := claim (handshake.nonce.map (·.value)) target claims request
    let proof := Proof.sign key claims draw.signature
    (request.withHeader "dpop" (.ofAscii proof), handshake, steps)

/-! ## Responses -/

/-- How a handshake takes a response of the token endpoint. -/
inductive Verdict where
  /-- The response is one for the caller. -/
  | pass
  /-- The handshake went on, and the request is to be made again. -/
  | advance (step : HandshakeStep)
  | violation (violation : HandshakeViolation)
  /-- The nonce would expire beyond the calendar. -/
  | beyondCalendar
  deriving DecidableEq

def Verdict.steps : Verdict → List HandshakeStep
  | .advance step => [step]
  | .pass | .violation _ | .beyondCalendar => []

def suppliedNonce? (response : Response) : Option String :=
  (response.headers.trimmed? "dpop-nonce").filter (!·.isEmpty)

def demandProof (handshake : Handshake) (fresh : ProofKey) (response : Response) :
    Verdict × Handshake :=
  if handshake.isActive then (.violation (.ofBody .repeatedInvalidProof response.body), handshake)
  else (.advance .keyEstablished, handshake.withKey fresh)

/-- Takes the demand for a nonce. There is a key from then on, even if the nonce would expire beyond
the calendar and is not held. -/
def demandNonce (handshake : Handshake) (fresh : ProofKey) (now : Instant) (response : Response) :
    Verdict × Handshake :=
  if handshake.nonce.isSome then
    (.violation (.ofBody .repeatedUseNonce response.body), handshake)
  else
    match suppliedNonce? response with
    | none => (.violation (.ofBody .missingNonceHeader response.body), handshake)
    | some value =>
      match now.add? handshake.validity with
      | none => (.beyondCalendar, handshake.withKey fresh)
      | some expiresAt =>
        (.advance .nonceAccepted, { handshake.withKey fresh with nonce := some ⟨value, expiresAt⟩ })

def otherRefusal (handshake : Handshake) (response : Response) : Verdict × Handshake :=
  if handshake.isActive then (.violation (.ofBody .unexpectedError response.body), handshake)
  else (.pass, handshake)

/-- Takes a response with the status of a refusal, by the demand that it makes. -/
def refusal (handshake : Handshake) (fresh : ProofKey) (now : Instant) (response : Response) :
    Verdict × Handshake :=
  match Demand.ofBody? response.body with
  | some .proof => handshake.demandProof fresh response
  | some .nonce => handshake.demandNonce fresh now response
  | some (.unrecognized _) | none => handshake.otherRefusal response

/-- Takes a response of the token endpoint that was received at an instant. Steps are told in the
order in which they happen. -/
def observe (handshake : Handshake) (fresh : ProofKey) (now : Instant) (response : Response) :
    Verdict × Handshake × List HandshakeStep :=
  if response.isSuccess then
    (.pass, handshake, if handshake.nonce.isSome then [.completed] else [])
  else if response.status ≠ 400 then (.pass, handshake, [])
  else
    let (verdict, handshake) := handshake.refusal fresh now response
    (verdict, handshake, verdict.steps)

end Handshake

end KeyBound
