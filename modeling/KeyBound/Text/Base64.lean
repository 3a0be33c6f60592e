import KeyBound.Text.Utf8

/-!
# Base64

The URL alphabet without padding, for token hashes and signed tokens, and the standard alphabet
with padding, in which key files are written. Reading takes canonical text only: no character
outside the alphabet, no missing or surplus padding, and no bit set in what the last character
leaves over.
-/

set_option autoImplicit false

namespace KeyBound.Base64

/-- An alphabet is fixed by its last two characters. -/
structure Alphabet where
  plus : Char
  slash : Char

/-- The alphabet of key files. -/
def standard : Alphabet := ⟨'+', '/'⟩

def urlSafe : Alphabet := ⟨'-', '_'⟩

def Alphabet.digit (alphabet : Alphabet) (n : Nat) : Char :=
  if n < 26 then Char.ofNat (65 + n)
  else if n < 52 then Char.ofNat (71 + n)
  else if n < 62 then Char.ofNat (n - 4)
  else if n = 62 then alphabet.plus
  else alphabet.slash

def Alphabet.value? (alphabet : Alphabet) (c : Char) : Option Nat :=
  let n := c.toNat
  if 65 ≤ n ∧ n ≤ 90 then some (n - 65)
  else if 97 ≤ n ∧ n ≤ 122 then some (n - 71)
  else if 48 ≤ n ∧ n ≤ 57 then some (n + 4)
  else if c = alphabet.plus then some 62
  else if c = alphabet.slash then some 63
  else none

def encode (alphabet : Alphabet) : Bytes → List Char
  | [] => []
  | [a] =>
    let n := a.toNat * 16
    [alphabet.digit (n / 64), alphabet.digit (n % 64)]
  | [a, b] =>
    let n := (a.toNat * 256 + b.toNat) * 4
    [alphabet.digit (n / 4096), alphabet.digit (n / 64 % 64), alphabet.digit (n % 64)]
  | a :: b :: c :: rest =>
    let n := (a.toNat * 256 + b.toNat) * 256 + c.toNat
    alphabet.digit (n / 262144) :: alphabet.digit (n / 4096 % 64) ::
      alphabet.digit (n / 64 % 64) :: alphabet.digit (n % 64) :: encode alphabet rest

/-- Reads unpadded text: two or three characters may stand at the end for one or two bytes, if the
bits left over are zero. -/
def decode? (alphabet : Alphabet) : List Char → Option Bytes
  | [] => some []
  | [_] => none
  | [p, q] => do
    let n := (← alphabet.value? p) * 64 + (← alphabet.value? q)
    if n % 16 = 0 then some [UInt8.ofNat (n / 16)] else none
  | [p, q, r] => do
    let n := ((← alphabet.value? p) * 64 + (← alphabet.value? q)) * 64 + (← alphabet.value? r)
    if n % 4 = 0 then some [UInt8.ofNat (n / 1024), UInt8.ofNat (n / 4 % 256)] else none
  | p :: q :: r :: s :: rest => do
    let n := (((← alphabet.value? p) * 64 + (← alphabet.value? q)) * 64 +
      (← alphabet.value? r)) * 64 + (← alphabet.value? s)
    let bytes ← decode? alphabet rest
    some (UInt8.ofNat (n / 65536) :: UInt8.ofNat (n / 256 % 256) :: UInt8.ofNat (n % 256) :: bytes)

/-- Reads text that is padded with `=` to a multiple of four characters. -/
def decodePadded? (alphabet : Alphabet) (text : List Char) : Option Bytes :=
  let body := text.reverse.dropWhile (· == '=') |>.reverse
  let padding := text.length - body.length
  if text.length % 4 = 0 ∧ padding = (4 - body.length % 4) % 4 then decode? alphabet body else none

end KeyBound.Base64
