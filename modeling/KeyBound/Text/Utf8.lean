/-!
# UTF-8

Bytes as text and text as bytes. `Utf8.encode` writes the shortest form of every character;
`Utf8.scan` reads a byte string as characters and ill-formed stretches, each stretch as long as a
prefix of some character's bytes can be. `Utf8.decode?` takes only byte strings without such a
stretch; `Utf8.decodeLossy` puts U+FFFD in the place of each.
-/

set_option autoImplicit false

namespace KeyBound

abbrev Bytes := List UInt8

namespace Utf8

/-- The bytes of one character: one below U+0080, two below U+0800, three below U+10000, four
above. -/
def encodeChar (c : Char) : Bytes :=
  let n := c.toNat
  if n < 0x80 then
    [UInt8.ofNat n]
  else if n < 0x800 then
    [UInt8.ofNat (0xC0 + n / 64), UInt8.ofNat (0x80 + n % 64)]
  else if n < 0x10000 then
    [UInt8.ofNat (0xE0 + n / 4096), UInt8.ofNat (0x80 + n / 64 % 64), UInt8.ofNat (0x80 + n % 64)]
  else
    [UInt8.ofNat (0xF0 + n / 262144), UInt8.ofNat (0x80 + n / 4096 % 64),
      UInt8.ofNat (0x80 + n / 64 % 64), UInt8.ofNat (0x80 + n % 64)]

def encode (text : List Char) : Bytes := text.flatMap encodeChar

/-- What a lead byte above the ASCII range calls for: the number of bytes after it, the six bits or
fewer that it carries, and the range of its second byte, which excludes overlong forms, surrogates
and everything above U+10FFFF. -/
def follow (lead : UInt8) : Option (Nat × Nat × UInt8 × UInt8) :=
  if lead < 0xC2 then none
  else if lead < 0xE0 then some (1, lead.toNat - 0xC0, 0x80, 0xBF)
  else if lead = 0xE0 then some (2, 0, 0xA0, 0xBF)
  else if lead = 0xED then some (2, 0xD, 0x80, 0x9F)
  else if lead < 0xF0 then some (2, lead.toNat - 0xE0, 0x80, 0xBF)
  else if lead = 0xF0 then some (3, 0, 0x90, 0xBF)
  else if lead < 0xF4 then some (3, lead.toNat - 0xF0, 0x80, 0xBF)
  else if lead = 0xF4 then some (3, 4, 0x80, 0x8F)
  else none

def within (low high b : UInt8) : Bool := low ≤ b && b ≤ high

/-- The character that starts with a given byte, and how many of the following bytes belong to it;
or `none`, and how many of them belong to the same ill-formed stretch. A stretch ends before the
first byte that no character can continue with. -/
def head (a : UInt8) (rest : Bytes) : Option Char × Nat :=
  if a < 0x80 then
    (some (Char.ofNat a.toNat), 0)
  else
    match follow a, rest with
    | none, _ => (none, 0)
    | some _, [] => (none, 0)
    | some (tails, top, low, high), b :: rest =>
      if within low high b then
        let n := top * 64 + (b.toNat - 0x80)
        if tails = 1 then (some (Char.ofNat n), 1)
        else
          match rest with
          | [] => (none, 1)
          | c :: rest =>
            if within 0x80 0xBF c then
              let n := n * 64 + (c.toNat - 0x80)
              if tails = 2 then (some (Char.ofNat n), 2)
              else
                match rest with
                | [] => (none, 2)
                | d :: _ =>
                  if within 0x80 0xBF d then (some (Char.ofNat (n * 64 + (d.toNat - 0x80))), 3)
                  else (none, 2)
            else (none, 1)
      else (none, 0)

/-- The characters of a byte string from left to right after some bytes that are passed over, with
`none` for each ill-formed stretch. -/
def scanFrom : Nat → Bytes → List (Option Char)
  | _, [] => []
  | skip + 1, _ :: rest => scanFrom skip rest
  | 0, a :: rest => (head a rest).1 :: scanFrom (head a rest).2 rest

/-- The characters of a byte string, with `none` for each ill-formed stretch. -/
def scan (bytes : Bytes) : List (Option Char) := scanFrom 0 bytes

def decode? (bytes : Bytes) : Option (List Char) := (scan bytes).mapM id

def decodeLossy (bytes : Bytes) : List Char := (scan bytes).map (·.getD '\uFFFD')

end Utf8

def utf8 (s : String) : Bytes := Utf8.encode s.toList

def utf8? (bytes : Bytes) : Option String := (Utf8.decode? bytes).map String.ofList

def utf8Lossy (bytes : Bytes) : String := String.ofList (Utf8.decodeLossy bytes)

end KeyBound
