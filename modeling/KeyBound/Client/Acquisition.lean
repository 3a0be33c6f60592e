import KeyBound.Client.Config
import KeyBound.Client.Pipeline
import KeyBound.Token.Assertion

/-!
# Acquisition of tokens

A client proves its identity by a signed assertion and is granted a token, which is used until it
has to be replaced. An acquisition makes its request again, with a new assertion, for each demand of
the handshake.
-/

set_option autoImplicit false

namespace KeyBound.Acquisition

def grantType : String := "client_credentials"

/-- How many demands of the handshake an acquisition meets. -/
def maxRounds : Nat := 2

def form (config : ClientConfig) (assertion : String) : List (String × String) :=
  [("grant_type", grantType), ("scope", config.scopes.joined),
    ("client_assertion_type", Assertion.assertionType), ("client_assertion", assertion)]

def errorOf : Assertion.Defect → Error
  | .unsignable => .config .unsignable
  | .beyondCalendar => .beyondCalendar

def request (config : ClientConfig) (now : Instant) (draw : Draw) : Except Error Request :=
  match Assertion.sign config.clientId config.tokenEndpoint config.key config.keyId now
      draw.identifier draw.signature with
  | .error defect => .error (errorOf defect)
  | .ok assertion =>
    .ok (((Request.plain "POST" config.tokenEndpoint).withHeader "accept"
      (.ofAscii "application/json")).withForm (form config assertion))

/-- One exchange of an acquisition; no token if the handshake went on. -/
def exchange (env : Environment) (config : ClientConfig) (session : Session) :
    Except Error (Option AccessToken) × Session :=
  let (now, session) := session.look env
  let (draw, session) := session.draw env
  match request config now draw with
  | .error error => (.error error, session)
  | .ok request =>
    match Pipeline.runToken env config.retry request session with
    | (.error error, session) => (.error error, session)
    | (.ok (.advanced _), session) => (.ok none, session)
    | (.ok (.completed response), session) =>
      let (now, session) := session.look env
      match TokenResponse.token (env.explain TokenResponse.Grant.decoder) response now with
      | .error defect => (.error (.token defect), session)
      | .ok token => (.ok (some token), session)

def exchanges (env : Environment) (config : ClientConfig) :
    (roundsLeft : Nat) → Session → Except Error AccessToken × Session
  | roundsLeft, session =>
    match exchange env config session with
    | (.error error, session) => (.error error, session)
    | (.ok (some token), session) => (.ok token, session)
    | (.ok none, session) =>
      match roundsLeft with
      | 0 => (.error (.token (.unsettled (maxRounds + 1))), session)
      | roundsLeft + 1 => exchanges env config roundsLeft session

/-- Acquires a token, whether there is one or not. -/
def fetch (env : Environment) (config : ClientConfig) (session : Session) :
    Except Error AccessToken × Session :=
  exchanges env config maxRounds (session.tell [.span .token .clientCredentials])

/-- The token that the session has, if it need not be replaced yet. -/
def fresh (env : Environment) (config : ClientConfig) (session : Session) :
    Except Error (Option AccessToken) × Session :=
  let (now, session) := session.look env
  match session.cached with
  | none => (.ok none, session)
  | some token =>
    match token.needsRenewal? config.refreshWindow now with
    | none => (.error .beyondCalendar, session)
    | some true => (.ok none, session)
    | some false => (.ok (some token), session)

/-- Acquires a token and keeps it. A failure leaves the session the token that it had. -/
def renew (env : Environment) (config : ClientConfig) (session : Session) :
    Except Error AccessToken × Session :=
  match fetch env config session with
  | (.error error, session) => (.error error, session)
  | (.ok token, session) => (.ok token, { session with cached := some token })

/-- A token for use: the one that the session has, or a new one. The clock is looked at a second
time when it is the caller's turn to acquire one, because another caller may have done so. -/
def accessToken (env : Environment) (config : ClientConfig) (session : Session) :
    Except Error AccessToken × Session :=
  match fresh env config session with
  | (.error error, session) => (.error error, session)
  | (.ok (some token), session) => (.ok token, session)
  | (.ok none, session) =>
    match fresh env config session with
    | (.error error, session) => (.error error, session)
    | (.ok (some token), session) => (.ok token, session)
    | (.ok none, session) => renew env config session

def accessTokens (env : Environment) (config : ClientConfig) :
    (callers : Nat) → Session → List (Except Error AccessToken) × Session
  | 0, session => ([], session)
  | callers + 1, session =>
    let (first, session) := accessToken env config session
    let (rest, session) := accessTokens env config callers session
    (first :: rest, session)

def debugText (config : ClientConfig) (session : Session) : String :=
  "TokenClient \x7b client_id: " ++ Quoted.display config.clientId ++ ", cached: " ++
    toString session.cached.isSome ++ ", .. \x7d"

end KeyBound.Acquisition
