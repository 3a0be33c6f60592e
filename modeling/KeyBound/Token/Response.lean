import KeyBound.Http.Message
import KeyBound.Token.AccessToken

/-!
# Responses of the token endpoint

A success is read as a token, any other status as a refusal. The body of a success may go on after
the token; the body of a refusal may not.
-/

set_option autoImplicit false

namespace KeyBound

inductive TokenDefect where
  /-- The server explains its refusal. -/
  | refused (code : String) (description : Option String) (status : Nat)
  /-- There is no body that could be read. -/
  | empty (status : Nat)
  /-- The body is no grant. The parser that found it out has a report of its own. -/
  | malformed (failure : Json.Failure) (report : Json.Report) (status : Nat)
  | lifetimeMissing
  | lifetimeOutOfRange
  /-- The handshake went on for too many rounds. -/
  | unsettled (rounds : Nat)
  deriving DecidableEq, Repr

def TokenDefect.message : TokenDefect → String
  | .refused code description _ =>
    "Token endpoint returned an OAuth error `" ++ code ++ "`" ++
      (match description with
      | some text => ": " ++ text
      | none => "") ++ "."
  | .empty status =>
    "Token endpoint returned HTTP " ++ toString status ++ " without a usable response body."
  | .malformed _ _ _ => "Token endpoint returned malformed JSON."
  | .lifetimeMissing => "Token endpoint response is missing expires_in."
  | .lifetimeOutOfRange => "The expires_in value is out of range."
  | .unsettled rounds => "DPoP handshake did not settle after " ++ toString rounds ++ " rounds."

namespace TokenResponse

/-! ## Bodies -/

structure Grant where
  tokenType : String
  expiresIn : Option Int
  accessToken : String
  idToken : Option String
  scope : Option String
  deriving DecidableEq, Repr

def Grant.fields : List (Json.Field Grant) :=
  [.ofDecoder "token_type" true Json.decodeText fun x grant => { grant with tokenType := x },
    .ofDecoder "expires_in" false (Json.decodeNullable Json.decodeInt64) fun x grant =>
      { grant with expiresIn := x },
    .ofDecoder "access_token" true Json.decodeText fun x grant => { grant with accessToken := x },
    .ofDecoder "id_token" false (Json.decodeNullable Json.decodeText) fun x grant =>
      { grant with idToken := x },
    .ofDecoder "scope" false (Json.decodeNullable Json.decodeText) fun x grant =>
      { grant with scope := x }]

def Grant.decoder : Json.Decoder Grant := Json.decodeRecord ⟨"", none, "", none, none⟩ Grant.fields

structure Refusal where
  code : String
  description : Option String
  uri : Option String
  deriving DecidableEq, Repr

def Refusal.decoder : Json.Decoder Refusal :=
  Json.decodeRecord ⟨"", none, none⟩
    [.ofDecoder "error" true Json.decodeText fun x refusal => { refusal with code := x },
      .ofDecoder "error_description" false (Json.decodeNullable Json.decodeText) fun x refusal =>
        { refusal with description := x },
      .ofDecoder "error_uri" false (Json.decodeNullable Json.decodeText) fun x refusal =>
        { refusal with uri := x }]

/-! ## Tokens -/

def refusal (response : Response) : TokenDefect :=
  match Json.decodeWhole Refusal.decoder response.body with
  | .ok refusal => .refused refusal.code refusal.description response.status
  | .error _ => .empty response.status

def Grant.token (grant : Grant) (issuedAt : Instant) : Except TokenDefect AccessToken :=
  match grant.expiresIn with
  | none => .error .lifetimeMissing
  | some seconds =>
    if seconds ≤ 0 then .error .lifetimeOutOfRange
    else
      match issuedAt.add? (.ofSeconds seconds) with
      | none => .error .lifetimeOutOfRange
      | some expiresAt =>
        .ok ⟨⟨grant.accessToken⟩, grant.tokenType, issuedAt, expiresAt, grant.scope,
          grant.idToken.map Secret.mk⟩

/-- Whether a body holds ASCII blanks only. -/
def isBlankBody (body : Bytes) : Bool := body.all fun b => isAsciiBlank (Char.ofNat b.toNat)

/-- The token of a response that was received at an instant. The report on a body that is no grant
is what the parser explains of the text that it has read. -/
def token (explain : Bytes → Json.Report) (response : Response) (issuedAt : Instant) :
    Except TokenDefect AccessToken :=
  if !response.isSuccess then .error (refusal response)
  else if isBlankBody response.body then .error (.empty response.status)
  else
    match response.decode Grant.decoder with
    | .error failure =>
      .error (.malformed failure (explain (Json.headText response.body)) response.status)
    | .ok grant => grant.token issuedAt

end TokenResponse

end KeyBound
