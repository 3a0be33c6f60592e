import KeyBound.Json.Decode
import KeyBound.Text.Base64
import KeyBound.Text.Blank

/-!
# Signed tokens

The compact form of a signed token: header, claims and signature, each in the URL alphabet and
joined by points.
-/

set_option autoImplicit false

namespace KeyBound

def urlText (bytes : Bytes) : String := String.ofList (Base64.encode Base64.urlSafe bytes)

def compactToken (header claims : Json.Value) (signature : Bytes) : String :=
  urlText (utf8 header.toText) ++ "." ++ urlText (utf8 claims.toText) ++ "." ++ urlText signature

def signedPart? (part : List Char) : Option Json.Value := do
  (Json.decodeWhole Json.decodeValue (← Base64.decode? Base64.urlSafe part)).toOption

def signedParts? (token : List Char) : Option (Json.Value × Json.Value) :=
  match Text.splitAt '.' token with
  | [header, claims, _] => do some (← signedPart? header, ← signedPart? claims)
  | _ => none

end KeyBound
