import KeyBound.Client.Acquisition
import KeyBound.Paging.Cursor

/-!
# Calls with a token

Requests that present a token. A response that refuses the token is answered once by a new token and
the same request; any other response without success is an error.
-/

set_option autoImplicit false

namespace KeyBound.Api

def unauthorized : Nat := 401

def attempt (env : Environment) (config : ClientConfig) (request : Request) (session : Session) :
    Except Error Response × Session :=
  match Acquisition.accessToken env config session with
  | (.error error, session) => (.error error, session)
  | (.ok token, session) =>
    match token.authorization? with
    | none => (.error (.config .headerInvalid), session)
    | some value =>
      Pipeline.run env config.retry .resource (request.withHeader "authorization" value) session

def failureOf (response : Response) : ApiFailure :=
  .of response.status (response.headers.trimmed? Pipeline.requestIdHeader) response.body

def accepted (response : Response) : Except Error Response :=
  if response.isSuccess then .ok response else .error (.api (failureOf response))

/-- Sends a request, and sends it once more with a new token if the first one is refused. -/
def send (env : Environment) (config : ClientConfig) (request : Request) (session : Session) :
    Except Error Response × Session :=
  match attempt env config request session with
  | (.error error, session) => (.error error, session)
  | (.ok response, session) =>
    if response.status = unauthorized then
      match attempt env config request session.invalidate with
      | (.error error, session) => (.error error, session)
      | (.ok response, session) => (accepted response, session)
    else (accepted response, session)

def jsonRequest (url : Url) : Request :=
  (Request.plain "GET" url).withHeader "accept" (.ofAscii "application/json")

def decoded {α : Type} (explain : Bytes → Json.Report) (decoder : Json.Decoder α)
    (response : Response) : Except Error α :=
  match response.decode decoder with
  | .ok value => .ok value
  | .error failure => .error (.undecodable failure (explain (Json.headText response.body)))

def fetch {α : Type} (decoder : Json.Decoder α) (env : Environment) (config : ClientConfig)
    (url : Url) (session : Session) : Except Error (α × Headers) × Session :=
  match send env config (jsonRequest url) session with
  | (.error error, session) => (.error error, session)
  | (.ok response, session) =>
    match decoded (env.explain decoder) decoder response with
    | .ok value => (.ok (value, response.headers), session)
    | .error error => (.error error, session)

def getJson {α : Type} (decoder : Json.Decoder α) (env : Environment) (config : ClientConfig)
    (path : String) (session : Session) : Except Error α × Session :=
  match config.resolve path with
  | .error error => (.error error, session)
  | .ok url =>
    let (result, session) := fetch decoder env config url session
    (result.map (·.1), session)

/-- The pages of a collection that begins at a URL. Links to further pages are resolved against the
URL of the organization. -/
def pages {α : Type} (decoder : Json.Decoder α) (env : Environment) (config : ClientConfig)
    (first : Url) : Fetcher Session α :=
  fun session target =>
    match target.elim (.ok first) config.resolve with
    | .error error => (.error error, session)
    | .ok url =>
      let (result, session) := fetch (Json.decodeList decoder) env config url session
      (result.map fun (items, headers) => ⟨items, headers⟩, session)

def debugText (env : Environment) (config : ClientConfig) (session : Session) : String :=
  "ApiClient \x7b org_url: " ++ Quoted.display config.orgUrl.toText ++ ", tokens: " ++
    Acquisition.debugText config session ++ ", cancelled: " ++
    toString (session.isCancelled env) ++ ", .. \x7d"

end KeyBound.Api
