import KeyBound.Text.Blank
import KeyBound.Text.Percent

/-!
# Form encoding

The body of a form: pairs joined by ampersands, a name and a value by an equals sign, spaces
written as plus signs and all but a few ASCII characters as percent escapes.
-/

set_option autoImplicit false

namespace KeyBound.Form

def contentType : String := "application/x-www-form-urlencoded"

/-- Characters that stand for themselves. -/
def isPlain (b : UInt8) : Bool :=
  (0x30 ≤ b && b ≤ 0x39) || (0x41 ≤ b && b ≤ 0x5A) || (0x61 ≤ b && b ≤ 0x7A) || b = 0x2A ||
    b = 0x2D || b = 0x2E || b = 0x5F

def encodeByte (b : UInt8) : List Char :=
  if isPlain b then [Char.ofNat b.toNat] else if b = 0x20 then ['+'] else Percent.escapeByte b

def encodeText (text : String) : List Char := (utf8 text).flatMap encodeByte

def encode (pairs : List (String × String)) : String :=
  String.ofList <| Text.join '&' <|
    pairs.map fun (name, value) => encodeText name ++ '=' :: encodeText value

def decodeText (text : Bytes) : String :=
  utf8Lossy (Percent.decode (text.map fun b => if b = 0x2B then 0x20 else b))

def splitBytes (separator : UInt8) : Bytes → List Bytes
  | [] => [[]]
  | b :: rest =>
    if b = separator then
      [] :: splitBytes separator rest
    else
      match splitBytes separator rest with
      | [] => [[b]]
      | part :: parts => (b :: part) :: parts

/-- Reads the pairs of a body; empty stretches between ampersands hold none, and a pair without an
equals sign has an empty value. -/
def decode (body : Bytes) : List (String × String) :=
  ((splitBytes 0x26 body).filter (!·.isEmpty)).map fun pair =>
    (decodeText (pair.takeWhile (· != 0x3D)), decodeText ((pair.dropWhile (· != 0x3D)).drop 1))

end KeyBound.Form
