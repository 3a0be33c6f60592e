import KeyBound.Http.Failure
import KeyBound.Http.Header
import KeyBound.Json.Decode
import KeyBound.Text.Form
import KeyBound.Url.Reference

/-!
# Requests and responses

Messages as values, so that a request can be sent again. A response body is decoded as the JSON
value at its head.
-/

set_option autoImplicit false

namespace KeyBound

/-- A request. Methods are case-sensitive. -/
structure Request where
  method : String
  url : Url
  headers : Headers
  body : Bytes
  deriving DecidableEq, Repr

structure Response where
  status : Nat
  headers : Headers
  body : Bytes
  deriving DecidableEq, Repr

abbrev Outcome := Except TransportFailure Response

namespace Request

def plain (method : String) (url : Url) : Request := ⟨method, url, [], []⟩

def withHeader (request : Request) (name : String) (value : HeaderValue) : Request :=
  { request with headers := request.headers.insert name value }

def withForm (request : Request) (pairs : List (String × String)) : Request :=
  { request with body := utf8 (Form.encode pairs) }.withHeader "content-type"
    (.ofAscii Form.contentType)

end Request

namespace Response

def isSuccess (response : Response) : Bool := 200 ≤ response.status && response.status < 300

/-- The JSON value at the head of the body. -/
def decode {α : Type} (response : Response) (decoder : Json.Decoder α) :
    Except Json.Failure α :=
  Json.decodeHead decoder response.body

end Response

end KeyBound
