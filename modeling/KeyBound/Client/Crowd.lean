import KeyBound.Client.Api
import Mathlib.Logic.Function.Basic

/-!
# Callers that share a client

Any number of callers of one session, each with a token for use or a request that presents one as
its errand. Their steps come in any order, and the session may be invalidated between any two of
them. Whoever acquires a token holds the turn from the second check until the new token is kept;
the others wait for it. A call of an endpoint is one step: it concerns neither the kept token nor
the turn, so that what others do meanwhile may as well come before or after it.
-/

set_option autoImplicit false

namespace KeyBound

open Acquisition

inductive Errand where
  | token
  | send (request : Request)
  deriving DecidableEq

/-- How far a caller has come. -/
inductive Stand where
  /-- It is going to check the kept token. -/
  | arriving
  /-- It found nothing and waits for its turn. -/
  | waiting
  /-- It has the turn, and is going to check again. -/
  | admitted
  /-- It found nothing again, and is going to acquire a token. -/
  | lacking
  /-- It acquires a token, and may still meet some number of demands. -/
  | acquiring (roundsLeft : Nat)
  /-- It has acquired a token, and is going to keep it. -/
  | granted (token : AccessToken)
  /-- It is done with its turn. -/
  | leaving (answer : Except Error AccessToken)
  /-- It has the token for use, or has failed. -/
  | supplied (answer : Except Error AccessToken)
  /-- Its request presents a token. -/
  | presenting (token : AccessToken) (request : Request)
  /-- The token was refused for the first time, and is going to be dropped. -/
  | refused (token : AccessToken)
  | settled (answer : Except Error Response)

namespace Stand

def holdsTurn : Stand → Bool
  | admitted | lacking | acquiring _ | granted _ | leaving _ => true
  | _ => false

def isAcquiring : Stand → Bool
  | acquiring _ => true
  | _ => false

def isChecking : Stand → Bool
  | arriving | admitted => true
  | _ => false

/-- Whether a caller is going to drop the kept token. -/
def isRefused : Stand → Bool
  | refused _ => true
  | _ => false

def checked (missed : Stand) (done : Except Error AccessToken → Stand) :
    Except Error (Option AccessToken) → Stand
  | .error error => done (.error error)
  | .ok (some token) => done (.ok token)
  | .ok none => missed

def exchanged : (roundsLeft : Nat) → Except Error (Option AccessToken) → Stand
  | _, .error error => leaving (.error error)
  | _, .ok (some token) => granted token
  | 0, .ok none => leaving (.error (.token (.unsettled (maxRounds + 1))))
  | roundsLeft + 1, .ok none => acquiring roundsLeft

/-- What a caller with a request makes of a token. -/
def equipped (request : Request) : Except Error AccessToken → Stand
  | .error error => settled (.error error)
  | .ok token =>
    match token.authorization? with
    | none => settled (.error (.config .headerInvalid))
    | some value => presenting token (request.withHeader "authorization" value)

/-- What a caller makes of the answer to its request, which it may have sent before. -/
def answered (again : Bool) (token : AccessToken) : Except Error Response → Stand
  | .error error => settled (.error error)
  | .ok response =>
    if response.status = Api.unauthorized && !again then refused token
    else settled (Api.accepted response)

end Stand

structure Caller where
  errand : Errand
  /-- The time of the session at which this caller's calls are cancelled. -/
  cancelAt : Option Delay
  /-- Whether its request is sent for the second time. -/
  again : Bool
  stand : Stand

namespace Caller

def arrive (errand : Errand) (cancelAt : Option Delay) : Caller :=
  ⟨errand, cancelAt, false, .arriving⟩

def standing (caller : Caller) (stand : Stand) : Caller := { caller with stand }

/-- What a caller does not decide. -/
def around (caller : Caller) (env : Environment) : Environment :=
  { env with cancelAt := caller.cancelAt }

/-- The next step of a caller, if it has one. The turn is taken only while nobody has it. -/
def step? (env : Environment) (config : ClientConfig) (free : Bool) (caller : Caller)
    (session : Session) : Option (Caller × Session) :=
  match caller.stand with
  | .arriving =>
    let (found, session) := fresh (caller.around env) config session
    some (caller.standing (.checked .waiting .supplied found), session)
  | .waiting => if free then some (caller.standing .admitted, session) else none
  | .admitted =>
    let (found, session) := fresh (caller.around env) config session
    some (caller.standing (.checked .lacking .leaving found), session)
  | .lacking =>
    some (caller.standing (.acquiring maxRounds), session.tell [.span .token .clientCredentials])
  | .acquiring roundsLeft =>
    let (result, session) := exchange (caller.around env) config session
    some (caller.standing (.exchanged roundsLeft result), session)
  | .granted token =>
    some (caller.standing (.leaving (.ok token)), { session with cached := some token })
  | .leaving answer => some (caller.standing (.supplied answer), session)
  | .supplied answer =>
    match caller.errand with
    | .token => none
    | .send request => some (caller.standing (.equipped request answer), session)
  | .presenting token request =>
    let (answer, session) :=
      Pipeline.run (caller.around env) config.retry .resource request session
    some (caller.standing (.answered caller.again token answer), session)
  | .refused _ => some ({ caller with again := true, stand := .arriving }, session.invalidate)
  | .settled _ => none

end Caller

structure Crowd (n : Nat) where
  session : Session
  /-- Who has the turn. -/
  turn : Option (Fin n)
  callers : Fin n → Caller

inductive Move (n : Nat) where
  | caller (i : Fin n)
  | invalidate
  deriving DecidableEq

def Move.isStep {n : Nat} : Move n → Bool
  | caller _ => true
  | invalidate => false

namespace Crowd

variable {n : Nat}

def gather (session : Session) (callers : Fin n → Errand × Option Delay) : Crowd n where
  session
  turn := none
  callers i := .arrive (callers i).1 (callers i).2

def turnAfter (crowd : Crowd n) (i : Fin n) (stand : Stand) : Option (Fin n) :=
  if stand.holdsTurn then some i
  else if (crowd.callers i).stand.holdsTurn then none
  else crowd.turn

def after (crowd : Crowd n) (i : Fin n) (caller : Caller) (session : Session) : Crowd n where
  session
  turn := crowd.turnAfter i caller.stand
  callers := Function.update crowd.callers i caller

/-- The crowd after a move; none if the caller has nothing to do, or waits while another one has the
turn. -/
def step? (env : Environment) (config : ClientConfig) (crowd : Crowd n) :
    Move n → Option (Crowd n)
  | .caller i =>
    ((crowd.callers i).step? env config crowd.turn.isNone crowd.session).map fun step =>
      crowd.after i step.1 step.2
  | .invalidate => some { crowd with session := crowd.session.invalidate }

def run? (env : Environment) (config : ClientConfig) : List (Move n) → Crowd n → Option (Crowd n)
  | [], crowd => some crowd
  | move :: moves, crowd => (step? env config crowd move).bind (run? env config moves)

end Crowd

end KeyBound
