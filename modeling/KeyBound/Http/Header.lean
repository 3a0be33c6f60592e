import KeyBound.Text.Blank
import KeyBound.Text.Utf8

/-!
# Headers

Header fields in the order in which they were added. Names are kept in lower case; one name may have
several values, whose order counts.
-/

set_option autoImplicit false

namespace KeyBound

/-- The value of a header: bytes, and whether they are a secret that must not be shown. -/
structure HeaderValue where
  bytes : Bytes
  sensitive : Bool
  deriving DecidableEq, Repr

namespace HeaderValue

/-- Whether a byte may stand in a header value: anything but control characters other than tab. -/
def isAllowed (b : UInt8) : Bool := b = 0x09 || (0x20 ≤ b && b != 0x7F)

/-- Whether a byte is a visible ASCII character, a space or a tab. -/
def isTextByte (b : UInt8) : Bool := b = 0x09 || (0x20 ≤ b && b ≤ 0x7E)

/-- A value from text that an application supplies, if all its bytes may stand in a header. -/
def ofText? (text : String) : Option HeaderValue :=
  let bytes := utf8 text
  if bytes.all isAllowed then some ⟨bytes, false⟩ else none

/-- A value from a text that is known to be ASCII. -/
def ofAscii (text : String) : HeaderValue := ⟨utf8 text, false⟩

def secret (value : HeaderValue) : HeaderValue := { value with sensitive := true }

def isText (value : HeaderValue) : Bool := value.bytes.all isTextByte

def chars? (value : HeaderValue) : Option (List Char) :=
  if value.isText then some (value.bytes.map fun b => Char.ofNat b.toNat) else none

end HeaderValue

/-- Header fields: names in lower case and their values. -/
abbrev Headers := List (String × HeaderValue)

namespace Headers

def fold (name : String) : String := String.ofList (name.toList.map Char.toLower)

/-- The values of a name, in order. -/
def getAll (headers : Headers) (name : String) : List HeaderValue :=
  (headers.filter (·.1 == fold name)).map (·.2)

def get? (headers : Headers) (name : String) : Option HeaderValue := (headers.getAll name).head?

def has (headers : Headers) (name : String) : Bool := (headers.get? name).isSome

def append (headers : Headers) (name : String) (value : HeaderValue) : Headers :=
  List.append headers [(fold name, value)]

def remove (headers : Headers) (name : String) : Headers := headers.filter (·.1 != fold name)

def insert (headers : Headers) (name : String) (value : HeaderValue) : Headers :=
  (headers.remove name).append name value

/-- The first value of a name, if it is text. -/
def chars? (headers : Headers) (name : String) : Option (List Char) := do
  (← headers.get? name).chars?

def trimmed? (headers : Headers) (name : String) : Option String :=
  (headers.chars? name).map fun text => String.ofList (Text.trim text)

end Headers

end KeyBound
