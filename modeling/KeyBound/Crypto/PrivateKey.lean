import KeyBound.Crypto.Curve
import KeyBound.Crypto.Pem
import KeyBound.Crypto.Rsa

/-!
# Signing keys

The key that signs client assertions. Loading a key looks only at its armour and at the identifier
of its algorithm; whether the key signs shows when it is used.
-/

set_option autoImplicit false

namespace KeyBound

inductive SigningAlgorithm where
  | rs256
  | es256
  deriving DecidableEq, Repr

def SigningAlgorithm.all : List SigningAlgorithm := [.rs256, .es256]

def SigningAlgorithm.label : SigningAlgorithm → String
  | .rs256 => "RS256"
  | .es256 => "ES256"

/-- A private key: for RSA the components of the key, for the curve P-256 the key with its
algorithm. -/
structure PrivateKey where
  algorithm : SigningAlgorithm
  material : Bytes
  deriving DecidableEq, Repr

inductive KeyDefect where
  | notArmoured
  | curveKeyAlone
  | unsupported
  deriving DecidableEq, Repr

def KeyDefect.reason : KeyDefect → String
  | .notArmoured => "expected PEM content"
  | .curveKeyAlone => "SEC1 EC keys must be converted to PKCS#8"
  | .unsupported => "unsupported PEM key; expected an RSA or P-256 private key"

namespace PrivateKey

/-! ## Loading -/

inductive Kind where
  | rsa
  | curve
  | edwards
  deriving DecidableEq, Repr

def Kind.ofIdentifier? (arcs : List Nat) : Option Kind :=
  if arcs = [1, 2, 840, 10045, 2, 1] then some .curve
  else if arcs = [1, 2, 840, 113549, 1, 1, 1] then some .rsa
  else if arcs = [1, 3, 101, 112] then some .edwards
  else none

/-- Tags of documents that hold nothing but an RSA key. -/
def bareTags : List (List Char) := ["RSA PRIVATE KEY".toList, "RSA PUBLIC KEY".toList]

def privateTag : List Char := "PRIVATE KEY".toList

/-- Tags of documents that name the kind of their key. -/
def wrappedTags : List (List Char) := [privateTag, "PUBLIC KEY".toList, "CERTIFICATE".toList]

/-- The key of a document. An RSA key is taken from any document that holds one; a key on the curve
only from a private key. -/
def ofPem? (pem : Pem) : Option PrivateKey := do
  let blocks ← Der.blocks? pem.content
  if bareTags.contains pem.tag then some ⟨.rs256, pem.content⟩
  else if wrappedTags.contains pem.tag then
    match ← Der.findIdentifier? Kind.ofIdentifier? blocks with
    | .rsa => some ⟨.rs256, ← Der.firstBytes? blocks⟩
    | .curve => if pem.tag = privateTag then some ⟨.es256, pem.content⟩ else none
    | .edwards => none
  else none

/-- Loads a key from text, with blanks around it or not. -/
def ofText (text : String) : Except KeyDefect PrivateKey :=
  let text := Text.trim text.toList
  if !"-----BEGIN".toList.isPrefixOf text then .error .notArmoured
  else if Text.includes "BEGIN EC PRIVATE KEY".toList text then .error .curveKeyAlone
  else
    match (Pem.parse? text).bind ofPem? with
    | some key => .ok key
    | none => .error .unsupported

def debugText (key : PrivateKey) : String :=
  let name := match key.algorithm with
    | .rs256 => "Rs256"
    | .es256 => "Es256"
  "PrivateKey \x7b algorithm: " ++ name ++ ", material: \"<redacted>\" \x7d"

/-! ## Signing -/

/-- The encoded identifiers of keys on elliptic curves and of the curve P-256. -/
def curveAlgorithm : Bytes :=
  [0x06, 0x07, 0x2A, 0x86, 0x48, 0xCE, 0x3D, 0x02, 0x01,
    0x06, 0x08, 0x2A, 0x86, 0x48, 0xCE, 0x3D, 0x03, 0x01, 0x07]

def curveName : Bytes := curveAlgorithm.drop 9

/-- Tags of the fields that a key may leave out. -/
def firstFieldTag : UInt8 := 0xA0
def secondFieldTag : UInt8 := 0xA1

def optionalField? (tag : UInt8) (bytes : Bytes) : Option (Option Bytes × Bytes) :=
  if bytes.head? = some tag then
    (Der.expect? tag bytes).map fun (content, rest) => (some content, rest)
  else some (none, bytes)

/-- The secret number and the public point, as bytes, of a key on the curve P-256. -/
def curveParts? (bytes : Bytes) : Option (Bytes × Bytes) := do
  let body ← Der.whole? Der.sequenceTag bytes
  let (version, rest) ← Der.integer? body
  let (algorithm, rest) ← Der.expect? Der.sequenceTag rest
  let (inner, rest) ← Der.expect? Der.octetStringTag rest
  let (_, rest) ← optionalField? firstFieldTag rest
  if version ≠ 0 ∨ algorithm ≠ curveAlgorithm ∨ !rest.isEmpty then none
  let body ← Der.whole? Der.sequenceTag inner
  let (version, rest) ← Der.integer? body
  let (secret, rest) ← Der.expect? Der.octetStringTag rest
  let (curve, rest) ← optionalField? firstFieldTag rest
  let point ← Der.whole? secondFieldTag rest
  match ← Der.whole? Der.bitStringTag point with
  | 0 :: point =>
    if version = 1 ∧ curve.getD curveName = curveName then some (secret, point) else none
  | _ => none

/-- Whether a key on the curve P-256 is written in full and its point belongs to its number. -/
def isCurveKey (bytes : Bytes) : Bool :=
  match curveParts? bytes with
  | some (secret, 4 :: point) =>
    secret.length == 32 && point.length == 64 &&
      Curve.isKeyPair (Der.number secret) (Der.number (point.take 32)) (Der.number (point.drop 32))
  | _ => false

/-- Whether a key signs. An RSA key is tried on the empty message: components that do not belong
together fail there as they do on almost all messages. -/
def canSign (key : PrivateKey) : Bool :=
  match key.algorithm with
  | .rs256 => ((RsaKey.parse? key.material).bind (·.sign? [])).isSome
  | .es256 => isCurveKey key.material

end PrivateKey

end KeyBound
