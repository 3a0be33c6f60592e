import KeyBound.Client.Event
import KeyBound.Error
import KeyBound.Handshake.State

/-!
# Sessions

The state of a client between and during its calls, beside everything that is not its own: how the
server answers, the clock, chance, and when the calls are cancelled. Time is counted from the start
of the session and goes on only while the client waits, for an exchange or before it tries again.
-/

set_option autoImplicit false

namespace KeyBound

/-- How an exchange ends, and after how long. -/
structure Reply where
  delay : Delay
  outcome : Outcome

/-- What a client depends on and does not decide. -/
structure Environment where
  /-- The reply to a request after the requests that were sent before it. -/
  respond : List Request → Request → Reply
  /-- What the clock shows when it is looked at for the first time, the second time and so on, after
  some time of the session. -/
  clock : Nat → Delay → Instant
  /-- What chance brings the first time, the second time and so on. -/
  draw : Nat → Draw
  /-- What a parser reports on the text of a body that it cannot decode. -/
  explain : {α : Type} → Json.Decoder α → Bytes → Json.Report
  /-- The time of the session at which its calls are cancelled. -/
  cancelAt : Option Delay

/-- The state of a client, and what it has done so far. -/
structure Session where
  handshake : Handshake
  cached : Option AccessToken
  elapsed : Delay
  /-- How often the clock was looked at. -/
  looks : Nat
  /-- How often chance was used. -/
  draws : Nat
  /-- The requests that were sent, in order, and when each was. -/
  sent : List (Delay × Request)
  /-- What the client told of its work, in order. -/
  events : List Event
  deriving DecidableEq

namespace Session

def start (nonceValidity : Span) : Session where
  handshake := .start nonceValidity
  cached := none
  elapsed := .zero
  looks := 0
  draws := 0
  sent := []
  events := []

/-- The session without its token, so that the next call acquires a new one. -/
def invalidate (session : Session) : Session := { session with cached := none }

/-! ## Single effects -/

def tell (session : Session) (events : List Event) : Session :=
  { session with events := session.events ++ events }

def look (env : Environment) (session : Session) : Instant × Session :=
  (env.clock session.looks session.elapsed, { session with looks := session.looks + 1 })

def draw (env : Environment) (session : Session) : Draw × Session :=
  (env.draw session.draws, { session with draws := session.draws + 1 })

def isCancelled (env : Environment) (session : Session) : Bool :=
  match env.cancelAt with
  | some moment => moment ≤ session.elapsed
  | none => false

/-- The time of the session at which a timer that starts now runs out. -/
def deadline (session : Session) (delay : Delay) : Delay :=
  session.elapsed.plus (delay.atMost .longestTimer)

/-- Waits for some time, or until the calls are cancelled if that comes first; tells whether the
time has passed. A cancellation at the very end comes first. -/
def wait (env : Environment) (delay : Delay) (session : Session) : Bool × Session :=
  let later := session.deadline delay
  match env.cancelAt with
  | some moment =>
    if moment ≤ later then (false, { session with elapsed := session.elapsed.atLeast moment })
    else (true, { session with elapsed := later })
  | none => (true, { session with elapsed := later })

def exchange (env : Environment) (request : Request) (session : Session) :
    Option Outcome × Session :=
  let reply := env.respond (session.sent.map (·.2)) request
  let session := { session with sent := session.sent ++ [(session.elapsed, request)] }
  let (passed, session) := session.wait env reply.delay
  (if passed then some reply.outcome else none, session)

/-! ## The handshake -/

/-- The session with a handshake that took some steps, all of which are told. -/
def takeSteps (session : Session) (handshake : Handshake) (steps : List HandshakeStep) : Session :=
  { session with handshake }.tell (steps.flatMap Event.ofStep)

def prepare (env : Environment) (target : Target) (request : Request) (session : Session) :
    Request × Session :=
  let (now, session) := session.look env
  let (draw, session) := session.draw env
  let (request, handshake, steps) := session.handshake.prepare draw target now request
  (request, session.takeSteps handshake steps)

/-- Lets the handshake take a response of the token endpoint. The result is the step by which it
went on, if it did. -/
def observe (env : Environment) (response : Response) (session : Session) :
    Except Error (Option HandshakeStep) × Session :=
  let (now, session) := session.look env
  let (draw, session) := session.draw env
  let (verdict, handshake, steps) := session.handshake.observe draw.key now response
  let session := session.takeSteps handshake steps
  match verdict with
  | .pass => (.ok none, session)
  | .advance step => (.ok (some step), session)
  | .violation violation => (.error (.handshake violation), session)
  | .beyondCalendar => (.error .beyondCalendar, session)

end Session

end KeyBound
