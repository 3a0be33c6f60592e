import KeyBound.Text.Utf8

/-!
# Hexadecimal digits

Upper-case digits are written in percent escapes, lower-case ones in JSON escapes and byte dumps;
both are read.
-/

set_option autoImplicit false

namespace KeyBound.Hex

def upperDigit (n : Nat) : Char :=
  if n < 10 then Char.ofNat (48 + n) else Char.ofNat (55 + n)

def lowerDigit (n : Nat) : Char :=
  if n < 10 then Char.ofNat (48 + n) else Char.ofNat (87 + n)

/-- The value of a digit in either case. -/
def value? (c : Char) : Option Nat :=
  let n := c.toNat
  if 48 ≤ n ∧ n ≤ 57 then some (n - 48)
  else if 65 ≤ n ∧ n ≤ 70 then some (n - 55)
  else if 97 ≤ n ∧ n ≤ 102 then some (n - 87)
  else none

def byteValue? (b : UInt8) : Option Nat := value? (Char.ofNat b.toNat)

def dump (bytes : Bytes) : List Char :=
  bytes.flatMap fun b => [lowerDigit (b.toNat / 16), lowerDigit (b.toNat % 16)]

def undump? : List Char → Option Bytes
  | [] => some []
  | [_] => none
  | high :: low :: rest =>
    match value? high, value? low, undump? rest with
    | some h, some l, some bytes => some (UInt8.ofNat (h * 16 + l) :: bytes)
    | _, _, _ => none

/-- The digits of a number without leading zeros. -/
def lowerDigits (n : Nat) : List Char := Nat.toDigits 16 n

end KeyBound.Hex
