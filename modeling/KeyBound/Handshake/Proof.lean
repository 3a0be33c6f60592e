import KeyBound.Crypto.Sha256
import KeyBound.Json.Decode
import KeyBound.Time.Instant
import KeyBound.Token.Signed
import KeyBound.Url.Basic

/-!
# Proofs of possession

A proof is a signed token over one request: its method, its address and, if the request presents an
access token, the hash of that token. A proof for the token endpoint may carry a nonce that the
server asked for.
-/

set_option autoImplicit false

namespace KeyBound

/-- The public half of the key that signs proofs. -/
structure ProofKey where
  x : String
  y : String
  deriving DecidableEq, Repr

def ProofKey.toJson (key : ProofKey) : Json.Value :=
  .object [("kty", .text "EC"), ("crv", .text "P-256"), ("x", .text key.x), ("y", .text key.y)]

/-- The hash by which a proof names an access token. -/
def tokenHash (token : String) : String := urlText (Sha256.hash (utf8 token))

/-! ## Addresses -/

def spaced (text : List Char) : List Char := text.map fun c => if c = '+' then ' ' else c

/-- A text with its percent escapes decoded, or as it is if they do not encode text. -/
def percentDecoded (text : List Char) : List Char :=
  (Utf8.decode? (Percent.decode (Utf8.encode text))).getD text

/-- The form in which a character of an address is written: percent signs, spaces, quotes and hash
signs are escaped. -/
def addressChar (c : Char) : List Char :=
  if c = '%' then ['%', '2', '5']
  else if c = ' ' then ['%', '2', '0']
  else if c = '"' then ['%', '2', '2']
  else if c = '#' then ['%', '2', '3']
  else [c]

/-- The address of a request as a proof states it: without query and fragment, decoded once, and
with four characters escaped again. -/
def canonicalAddress (url : Url) : String :=
  String.ofList ((percentDecoded (spaced url.withoutQuery.text)).flatMap addressChar)

/-! ## Claims -/

structure ProofClaims where
  method : String
  address : String
  identifier : String
  issuedAt : Int
  tokenHash : Option String
  nonce : Option String
  deriving DecidableEq, Repr

namespace ProofClaims

def ofRequest (method : String) (url : Url) (now : Instant) (identifier : String) : ProofClaims :=
  ⟨method, canonicalAddress url, identifier, now.seconds, none, none⟩

def optionalMember (key : String) (value : Option String) : List (String × Json.Value) :=
  value.toList.map fun text => (key, .text text)

def toJson (claims : ProofClaims) : Json.Value :=
  .object ([("htm", .text claims.method), ("htu", .text claims.address),
    ("jti", .text claims.identifier), ("iat", .ofInt claims.issuedAt)] ++
    optionalMember "ath" claims.tokenHash ++ optionalMember "nonce" claims.nonce)

def payload (claims : ProofClaims) : String := claims.toJson.toText

def decoder : Json.Decoder ProofClaims :=
  Json.decodeRecord ⟨"", "", "", 0, none, none⟩
    [.ofDecoder "htm" true Json.decodeText fun x claims => { claims with method := x },
      .ofDecoder "htu" true Json.decodeText fun x claims => { claims with address := x },
      .ofDecoder "jti" true Json.decodeText fun x claims => { claims with identifier := x },
      .ofDecoder "iat" true Json.decodeInt64 fun x claims => { claims with issuedAt := x },
      .ofDecoder "ath" false (Json.decodeNullable Json.decodeText) fun x claims =>
        { claims with tokenHash := x },
      .ofDecoder "nonce" false (Json.decodeNullable Json.decodeText) fun x claims =>
        { claims with nonce := x }]

end ProofClaims

namespace Proof

def proofType : String := "dpop+jwt"

def algorithm : String := "ES256"

/-- The header of a proof, which holds the public key. -/
def header (key : ProofKey) : Json.Value :=
  .object [("typ", .text proofType), ("alg", .text algorithm), ("jwk", key.toJson)]

def sign (key : ProofKey) (claims : ProofClaims) (signature : Bytes) : String :=
  compactToken (header key) claims.toJson signature

end Proof

end KeyBound
